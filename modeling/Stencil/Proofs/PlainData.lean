import Mathlib.Tactic.Ring
import Stencil.Batch
import Stencil.Proofs.Modes

/-!
# Plain data

A context that is read from a file is plain data: scalars, sequences and mappings, without objects and
with integers that are short enough to be written (`loadContext_isData`). All of it has a text, so a
render against it has only one way to fail without an account, an index of too many digits
(`Engine.renderOutcome_error_iff`).
-/

namespace Stencil

open Numeral

/-! ## Integers that are not too long -/

namespace Numeral

theorem tooLarge_eq : tooLarge = 10 ^ maxDigits := by
  unfold tooLarge
  -- the power is not to be computed
  generalize maxDigits = digits
  rfl

theorem lt_tooLarge_of_le_one {n : Nat} (h : n ≤ 1) : n < tooLarge := by
  rw [tooLarge_eq]
  exact Nat.lt_of_le_of_lt h (Nat.one_lt_pow (by decide) (by decide))

theorem ofDigits_lt {ds : List Nat} (h : ∀ d ∈ ds, d < 10) : ofDigits ds < 10 ^ ds.length := by
  have hfold : ∀ n, ds.foldl (fun n d => 10 * n + d) n < (n + 1) * 10 ^ ds.length := by
    induction ds with
    | nil => exact fun n => by simp
    | cons d ds ih =>
        intro n
        rw [List.forall_mem_cons] at h
        rw [List.foldl_cons, List.length_cons, Nat.pow_succ]
        calc ds.foldl (fun n d => 10 * n + d) (10 * n + d)
            < (10 * n + d + 1) * 10 ^ ds.length := ih h.2 _
          _ ≤ (10 * (n + 1)) * 10 ^ ds.length := Nat.mul_le_mul_right _ (by have := h.1; omega)
          _ = (n + 1) * (10 ^ ds.length * 10) := by ring
  have hzero := hfold 0
  rw [Nat.zero_add, Nat.one_mul] at hzero
  exact hzero

/-- An integer that can be read can be written. -/
theorem readInteger_lt {negative : Bool} {ds : List Nat} {n : Int} (hds : ∀ d ∈ ds, d < 10)
    (h : readInteger negative ds = .ok n) : n.natAbs < tooLarge := by
  unfold readInteger at h
  split at h
  · next hlength =>
      have hn : n.natAbs = ofDigits ds := by
        cases h
        cases negative <;> simp
      rw [hn, tooLarge_eq]
      exact Nat.lt_of_lt_of_le (ofDigits_lt hds) (Nat.pow_le_pow_right (by decide) hlength)
  · cases h

end Numeral

/-! ## Values without objects -/

namespace Value

/-- Plain data: no objects, and no integers that are too long to be written. -/
inductive IsData : Value → Prop
  | none : IsData none
  | bool (b : Bool) : IsData (bool b)
  | int {n : Int} (h : n.natAbs < tooLarge) : IsData (int n)
  | float (x : Float) : IsData (float x)
  | str (s : String) : IsData (str s)
  | bytes (bs : List UInt8) : IsData (bytes bs)
  | list {items : List Value} (h : ∀ v ∈ items, IsData v) : IsData (list items)
  | tuple {items : List Value} (h : ∀ v ∈ items, IsData v) : IsData (tuple items)
  | dict {entries : List (String × Value)} (h : ∀ e ∈ entries, IsData e.2) : IsData (dict entries)

theorem innerItems_ok {items : List Value} (h : ∀ v ∈ items, ∃ text, v.inner = .ok text) :
    ∃ texts, innerItems items = .ok texts := by
  induction items with
  | nil => exact ⟨[], rfl⟩
  | cons v vs ih =>
      rw [List.forall_mem_cons] at h
      obtain ⟨⟨text, htext⟩, hvs⟩ := h
      obtain ⟨texts, htexts⟩ := ih hvs
      rw [innerItems, htext, htexts]
      exact ⟨text :: texts, rfl⟩

theorem innerEntries_ok {entries : List (String × Value)}
    (h : ∀ e ∈ entries, ∃ text, e.2.inner = .ok text) :
    ∃ texts, innerEntries entries = .ok texts := by
  induction entries with
  | nil => exact ⟨[], rfl⟩
  | cons e es ih =>
      rw [List.forall_mem_cons] at h
      obtain ⟨⟨text, htext⟩, hes⟩ := h
      obtain ⟨texts, htexts⟩ := ih hes
      rw [innerEntries, htext, htexts]
      exact ⟨_, rfl⟩

theorem integerText_ok {n : Int} (h : n.natAbs < tooLarge) :
    ∃ text, integerText n = .ok text := by
  unfold integerText integerText?
  -- the bound is not to be computed
  generalize tooLarge = bound at h ⊢
  rw [if_pos h]
  exact ⟨_, rfl⟩

theorem IsData.inner {v : Value} (h : v.IsData) : ∃ text, v.inner = .ok text := by
  induction h with
  | none | bool | float | str | bytes => exact ⟨_, rfl⟩
  | int h =>
      rw [Value.inner]
      exact integerText_ok h
  | list _ ih =>
      obtain ⟨texts, htexts⟩ := innerItems_ok ih
      rw [Value.inner, htexts]
      exact ⟨_, rfl⟩
  | tuple _ ih =>
      obtain ⟨texts, htexts⟩ := innerItems_ok ih
      rw [Value.inner, htexts]
      rcases texts with _ | ⟨text, _ | ⟨next, texts⟩⟩ <;> exact ⟨_, rfl⟩
  | dict _ ih =>
      obtain ⟨texts, htexts⟩ := innerEntries_ok ih
      rw [Value.inner, htexts]
      exact ⟨_, rfl⟩

theorem IsData.shown {v : Value} (h : v.IsData) : ∃ text, v.shown = .ok text := by
  cases h with
  | none | bool | str => exact ⟨_, rfl⟩
  | int h => exact (IsData.int h).inner
  | float x => exact (IsData.float x).inner
  | bytes bs => exact (IsData.bytes bs).inner
  | list h => exact (IsData.list h).inner
  | tuple h => exact (IsData.tuple h).inner
  | dict h => exact (IsData.dict h).inner

theorem isData_int_small {n : Int} (h : n.natAbs ≤ 1) : (int n).IsData :=
  .int (lt_tooLarge_of_le_one h)

/-- The attributes of plain data are plain data. -/
theorem IsData.attributes {v : Value} (h : v.IsData) {name : String} {w : Value}
    (hw : (name, .ok w) ∈ v.attributes) : w.IsData := by
  cases h with
  | none | str | bytes | list | tuple | dict => cases hw
  | bool b =>
      simp only [Value.attributes, List.mem_cons, List.not_mem_nil, or_false, Prod.mk.injEq,
        Except.ok.injEq] at hw
      rcases hw with ⟨-, rfl⟩ | ⟨-, rfl⟩ | ⟨-, rfl⟩ | ⟨-, rfl⟩
      · exact isData_int_small (by cases b <;> decide)
      · exact isData_int_small (by decide)
      · exact isData_int_small (by cases b <;> decide)
      · exact isData_int_small (by decide)
  | int h =>
      simp only [Value.attributes, List.mem_cons, List.not_mem_nil, or_false, Prod.mk.injEq,
        Except.ok.injEq] at hw
      rcases hw with ⟨-, rfl⟩ | ⟨-, rfl⟩ | ⟨-, rfl⟩ | ⟨-, rfl⟩
      · exact .int h
      · exact isData_int_small (by decide)
      · exact .int h
      · exact isData_int_small (by decide)
  | float x =>
      simp only [Value.attributes, List.mem_cons, List.not_mem_nil, or_false, Prod.mk.injEq,
        Except.ok.injEq] at hw
      rcases hw with ⟨-, rfl⟩ | ⟨-, rfl⟩ <;> exact .float _

/-- What is inside plain data is plain data. -/
theorem IsData.hereditary : Hereditary IsData := by
  intro v w h hinside
  cases hinside with
  | list hmem => cases h with
    | list h => exact h w hmem
  | tuple hmem => cases h with
    | tuple h => exact h w hmem
  | dict hmem => cases h with
    | dict h => exact h _ hmem
  | «attribute» hmem => exact h.attributes hmem
  | lookup | item => cases h

end Value

/-! ## What a JSON text holds -/

namespace Json

theorem digits_lt {cs : List Char} : ∀ d ∈ (digits cs).1, d < 10 := by
  intro d hd
  obtain ⟨c, hc, rfl⟩ := List.mem_map.mp hd
  have hdigit := List.all_eq_true.mp List.all_takeWhile c hc
  simp only [isAsciiDigit, Bool.and_eq_true, decide_eq_true_eq] at hdigit
  have hle : c.toNat ≤ '9'.toNat := hdigit.2
  have hnine : '9'.toNat = 57 := rfl
  have hzero : '0'.toNat = 48 := rfl
  omega

theorem wholePart?_lt {cs rest : List Char} {ds : List Nat} (h : wholePart? cs = some (ds, rest)) :
    ∀ d ∈ ds, d < 10 := by
  unfold wholePart? at h
  split at h
  · cases h
    simp
  · simp only at h
    split at h
    · cases h
    · cases h
      exact digits_lt

theorem number?_isData {p after : Place} {v : Value} (h : number? p = some (.ok (v, after))) :
    v.IsData := by
  unfold number? at h
  simp only [Option.bind_eq_bind, Option.bind_eq_some_iff] at h
  obtain ⟨⟨whole, cs⟩, hwhole, h⟩ := h
  split at h
  · split at h
    · next n hn =>
        cases h
        exact .int (readInteger_lt (wholePart?_lt hwhole) hn)
    · cases h
  · cases h
    exact .float _

theorem word?_isData {p after : Place} {v : Value} (h : word? p = some (v, after)) : v.IsData := by
  unfold word? at h
  obtain ⟨⟨name, w⟩, hmem, hfound⟩ := List.exists_of_findSome?_eq_some h
  simp only at hfound
  split at hfound
  · cases hfound
    simp only [words, List.mem_cons, List.not_mem_nil, or_false, Prod.mk.injEq] at hmem
    rcases hmem with ⟨-, rfl⟩ | ⟨-, rfl⟩ | ⟨-, rfl⟩ | ⟨-, rfl⟩ | ⟨-, rfl⟩ | ⟨-, rfl⟩
    · exact .none
    · exact .bool true
    · exact .bool false
    · exact .float _
    · exact .float _
    · exact .float _
  · cases hfound

theorem isData_ofList {entries : List (String × Value)} (h : ∀ e ∈ entries, e.2.IsData) :
    (Value.dict (Entries.ofList entries)).IsData :=
  .dict fun e he => (Entries.mem_putAll he).elim nofun (h e)

/-- Values, elements and members that are read with the fuel are plain data. -/
structure ReadsData (fuel : Nat) : Prop where
  value {p after : Place} {v : Value} (h : value fuel p = .ok (v, after)) : v.IsData
  elements {p after : Place} {vs : List Value} (h : elements fuel p = .ok (vs, after)) :
    ∀ v ∈ vs, v.IsData
  members {p after : Place} {es : List (String × Value)} (h : members fuel p = .ok (es, after)) :
    ∀ e ∈ es, e.2.IsData

namespace ReadsData

variable {fuel : Nat} {p after : Place}

theorem value_succ (ih : ReadsData fuel) {v : Value}
    (h : Json.value (fuel + 1) p = .ok (v, after)) : v.IsData := by
  rw [Json.value] at h
  split at h
  · obtain ⟨⟨cs, next⟩, -, h⟩ := bind_eq_ok_iff.mp h
    cases h
    exact .str _
  · simp only at h
    split at h
    · cases h
      exact .list nofun
    · obtain ⟨⟨items, next⟩, hitems, h⟩ := bind_eq_ok_iff.mp h
      cases h
      exact .list (ih.elements hitems)
  · simp only at h
    split at h
    · cases h
      exact .dict nofun
    · obtain ⟨⟨entries, next⟩, hentries, h⟩ := bind_eq_ok_iff.mp h
      cases h
      exact isData_ofList (ih.members hentries)
  · split at h
    · next hword =>
        cases h
        exact word?_isData hword
    · split at h
      · next hnumber =>
          rw [h] at hnumber
          exact number?_isData hnumber
      · cases h

theorem elements_succ (ih : ReadsData fuel) {vs : List Value}
    (h : Json.elements (fuel + 1) p = .ok (vs, after)) : ∀ v ∈ vs, v.IsData := by
  rw [Json.elements] at h
  obtain ⟨⟨v, next⟩, hv, h⟩ := bind_eq_ok_iff.mp h
  simp only at h
  split at h
  · cases h
    rw [List.forall_mem_singleton]
    exact ih.value hv
  · obtain ⟨⟨rest, next'⟩, hrest, h⟩ := bind_eq_ok_iff.mp h
    cases h
    rw [List.forall_mem_cons]
    exact ⟨ih.value hv, ih.elements hrest⟩
  · cases h

theorem members_succ (ih : ReadsData fuel) {es : List (String × Value)}
    (h : Json.members (fuel + 1) p = .ok (es, after)) : ∀ e ∈ es, e.2.IsData := by
  rw [Json.members] at h
  split at h
  · obtain ⟨⟨name, next⟩, -, h⟩ := bind_eq_ok_iff.mp h
    simp only at h
    split at h
    · obtain ⟨⟨v, next'⟩, hv, h⟩ := bind_eq_ok_iff.mp h
      simp only at h
      split at h
      · cases h
        rw [List.forall_mem_singleton]
        exact ih.value hv
      · obtain ⟨⟨rest, next''⟩, hrest, h⟩ := bind_eq_ok_iff.mp h
        cases h
        rw [List.forall_mem_cons]
        exact ⟨ih.value hv, ih.members hrest⟩
      · cases h
    · cases h
  · cases h

end ReadsData

theorem readsData (fuel : Nat) : ReadsData fuel := by
  induction fuel with
  | zero => exact ⟨nofun, nofun, nofun⟩
  | succ fuel ih => exact ⟨ih.value_succ, ih.elements_succ, ih.members_succ⟩

theorem read_isData {text : String} {v : Value} (h : read text = .ok v) : v.IsData := by
  unfold read at h
  simp only at h
  split at h
  · cases h
  · obtain ⟨⟨found, after⟩, hfound, h⟩ := bind_eq_ok_iff.mp h
    simp only at h
    split at h
    · cases h
      exact (readsData _).value hfound
    · cases h

end Json

/-- The context of a batch is plain data. -/
theorem loadContext_isData {d : Disk} {name : Option String} {input : Path} {v : Value}
    (h : loadContext d name input = .ok v) : v.IsData := by
  unfold loadContext at h
  split at h
  · cases h
    exact .dict nofun
  · cases h
    exact .dict nofun
  · unfold readContext at h
    split at h
    · cases h
    · split at h
      · next hread =>
          cases h
          exact Json.read_isData hread
      · cases h
      · cases h
      · cases h

/-! ## Renders against plain data -/

variable {σ : Type}

/-- All filters are built in. -/
def Registry.OnlyBuiltins (filters : Registry σ) : Prop :=
  ∀ name candidate, filters.get? name = some candidate →
    ∃ b : Builtin, candidate = .function b.toFilter

theorem Registry.merge_onlyBuiltins (withBuiltins : Bool) :
    (Registry.merge ([] : Registry σ) withBuiltins).OnlyBuiltins := by
  intro name candidate h
  cases withBuiltins with
  | false => cases h
  | true =>
      obtain ⟨b, -, heq⟩ := List.mem_map.mp (Entries.mem_of_get? h)
      cases heq
      exact ⟨b, rfl⟩

namespace Scene

variable {scene : Scene σ}

/-- A built-in filter gives a string. -/
theorem applyCall_isData (hfilters : scene.filters.OnlyBuiltins) {value result : Value} {call : Call}
    {run run' : Run σ} (h : scene.applyCall value call run = (.ok result, run')) :
    result.IsData := by
  unfold applyCall at h
  simp only [bind, ExceptT.bind, ExceptT.mk] at h
  cases hget : scene.filters.get? call.name with
  | none =>
      rw [hget] at h
      cases h
  | some candidate =>
      obtain ⟨b, rfl⟩ := hfilters _ _ hget
      rw [hget] at h
      cases hparam : scene.param call with
      | error failure =>
          rw [hparam] at h
          cases h
      | ok param =>
          rw [hparam] at h
          change Filter.invoke call.name b.toFilter value param run = _ at h
          unfold Filter.invoke Builtin.toFilter at h
          cases param with
          | some _ => cases h
          | none =>
              unfold Builtin.apply at h
              cases hshown : value.shown with
              | error cause =>
                  rw [hshown] at h
                  cases h
              | ok text =>
                  rw [hshown] at h
                  cases h
                  exact .str _

theorem applyCalls_isData (hfilters : scene.filters.OnlyBuiltins) {value final : Value}
    (hvalue : value.IsData) {calls : List Call} {run run' : Run σ}
    (h : scene.applyCalls value calls run = (.ok final, run')) : final.IsData := by
  induction calls generalizing value run with
  | nil =>
      cases h
      exact hvalue
  | cons call calls ih =>
      simp only [applyCalls, bind, ExceptT.bind, ExceptT.mk, StateT.bind] at h
      rcases hcall : scene.applyCall value call run with ⟨failure | next, run₁⟩
      · rw [hcall] at h
        cases h
      · rw [hcall] at h
        exact ih (applyCall_isData hfilters hcall) h

/-- The nodes come to a variable on whose path an index of too many digits is read. -/
def MeetsLongIndex (scene : Scene σ) (nodes : List Node) (run : Run σ) : Prop :=
  ∃ path filters source run' digits, scene.Reaches nodes run (.variable path filters source) run'
    ∧ scene.context.ReadsLongIndex path digits

/-- All values that are shown have a text, so that a node raises nothing but a long index. -/
theorem Raises.index_of_isData (hcontext : scene.context.IsData)
    (hfilters : scene.filters.OnlyBuiltins) {node : Node} {run : Run σ} {fault : Fault}
    (h : scene.Raises node run fault) :
    ∃ path filters source digits, node = .variable path filters source
      ∧ scene.context.ReadsLongIndex path digits ∧ fault = .integerTooLongToRead digits := by
  cases h with
  | walk hwalk =>
      have hobject (o : Object Value) : ¬(Value.object o).IsData := nofun
      obtain ⟨digits, hlong, hcause⟩ :=
        hwalk.readsLongIndex Value.IsData.hereditary hobject hcontext
      exact ⟨_, _, _, digits, rfl, hlong, hcause⟩
  | @text _ _ final _ hshows hshown =>
      have hfinal : final.IsData := by
        cases hshows with
        | «variable» hpath hcalls =>
            exact applyCalls_isData hfilters (Value.IsData.hereditary.resolve? hcontext hpath) hcalls
        | group _ hcalls => exact applyCalls_isData hfilters (.str _) hcalls
      obtain ⟨text, htext⟩ := hfinal.shown
      cases htext.symm.trans hshown

theorem escapes_iff_meetsLongIndex (hcontext : scene.context.IsData)
    (hfilters : scene.filters.OnlyBuiltins) {nodes : List Node} {run : Run σ} :
    (∃ cause, scene.Escapes Raises Fault.outside nodes run cause) ↔ scene.MeetsLongIndex nodes run := by
  constructor
  · rintro ⟨cause, node, run', fault, hreaches, hraises, -⟩
    obtain ⟨path, filters, source, digits, rfl, hlong, -⟩ :=
      hraises.index_of_isData hcontext hfilters
    exact ⟨path, filters, source, run', digits, hreaches, hlong⟩
  · rintro ⟨path, filters, source, run', digits, hreaches, hlong⟩
    exact ⟨_, _, run', _, hreaches, .walk hlong.walkRaises, rfl⟩

end Scene

/-- A context, and no filters of the caller. -/
def Arguments.bare (context : Value) : Arguments Unit where
  context
  filters := .absent

theorem Arguments.bare_accepted (context : Value) : (bare context).Accepted :=
  ⟨[], rfl, by simp [Registry.Callable]⟩

theorem Arguments.contextOrEmpty_isData {a : Arguments σ} (h : a.context.IsData) :
    a.contextOrEmpty.IsData := by
  unfold contextOrEmpty
  split
  · exact .dict nofun
  · exact h

namespace Engine

/-- Without filters of the caller, a template comes to a variable on whose path an index of too many
digits is read. -/
def MeetsLongIndex (e : Engine) (template : String) (context : Value) : Prop :=
  ∃ nodes, e.compile (.str template) = .ok nodes
    ∧ (e.scene (.bare context)).MeetsLongIndex nodes ⟨(), []⟩

/-- Against plain data the only error that is not taken back into a result is that of an index of too
many digits. -/
theorem renderOutcome_error_iff (e : Engine) (flags : Flags) (template : String) {context : Value}
    (hcontext : context.IsData) :
    (∃ error, (e.renderOutcome flags (.str template) (.bare context) ⟨(), []⟩).result = .error error)
      ↔ e.MeetsLongIndex template context := by
  have ha := Arguments.bare_accepted context
  have hescapes (nodes : List Node) :
      (∃ cause, (e.scene (.bare context)).Escapes Scene.Raises Fault.outside nodes
          ⟨(), []⟩ cause)
        ↔ (e.scene (.bare context)).MeetsLongIndex nodes ⟨(), []⟩ :=
    Scene.escapes_iff_meetsLongIndex (Arguments.contextOrEmpty_isData hcontext)
      (Registry.merge_onlyBuiltins _)
  have hcontained : e.Contained Scene.Raises Fault.outside template (.bare context) ⟨(), []⟩ :=
    contained ha
  simp only [(outcome_iff e flags (.str template) (.bare context) ⟨(), []⟩).2.2]
  constructor
  · rintro ⟨error, hstrict, hother⟩
    rcases hcontained with
      ⟨text, h⟩ | ⟨malformed, h⟩ | ⟨failure, h, hfailure⟩ | ⟨cause, -, nodes, hcompile, hcause⟩
    · cases hstrict.symm.trans h
    · cases hstrict.symm.trans h
      exact absurd (.parse malformed) (hother _)
    · cases hstrict.symm.trans h
      exact absurd (.evaluation hfailure) (hother _)
    · exact ⟨nodes, hcompile, (hescapes nodes).mp ⟨cause, hcause⟩⟩
  · rintro ⟨nodes, hcompile, path, filters, source, run', digits, hreaches, hlong⟩
    have hfault := (renderStrict_fault_iff ha).mpr
      ⟨nodes, hcompile, _, run', _, hreaches, .walk hlong.walkRaises, rfl⟩
    exact ⟨_, hfault, RenderError.templateClass?_eq_none_iff.mp rfl⟩

end Engine

end Stencil

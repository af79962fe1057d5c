import Stencil.Token

/-!
# Alternation

The shape that a stream of tokens has when it comes from a template: literals and symbols alternate,
with a literal at both ends. The shape is stated by index, as one reads it off a stream; proofs take
it apart from the front, a literal and then what may follow one (`alternating_cons`).
-/

namespace Stencil

/-- Literals stand at the even places, symbols at the odd ones, and a literal comes last. -/
def Alternating (ts : List Token) : Prop :=
  ts.length % 2 = 1 ∧ ∀ i (h : i < ts.length), ts[i].kind = .literal ↔ i % 2 = 0

instance (ts : List Token) : Decidable (Alternating ts) :=
  inferInstanceAs (Decidable (_ ∧ _))

/-- What stands after a literal: nothing, or a symbol and an alternating stream again. -/
def AfterLiteral : List Token → Prop
  | [] => True
  | t :: ts => t.kind ≠ .literal ∧ Alternating ts

@[simp] theorem afterLiteral_nil : AfterLiteral [] := trivial

theorem not_alternating_nil : ¬Alternating [] := by
  simp [Alternating]

theorem alternating_cons_cons {l t : Token} {ts : List Token} :
    Alternating (l :: t :: ts) ↔ l.kind = .literal ∧ t.kind ≠ .literal ∧ Alternating ts := by
  constructor
  · rintro ⟨hodd, hkind⟩
    refine ⟨(hkind 0 (by simp)).mpr rfl, fun h => ?_, ?_, fun i hi => ?_⟩
    · exact absurd ((hkind 1 (by simp)).mp h) (by decide)
    · simp only [List.length_cons] at hodd
      omega
    · have h := hkind (i + 2) (by simpa using hi)
      rw [Nat.add_mod_right] at h
      exact h
  · rintro ⟨hl, ht, hodd, hkind⟩
    refine ⟨by simp only [List.length_cons]; omega, fun i hi => ?_⟩
    match i with
    | 0 => simpa using hl
    | 1 => simpa using ht
    | i + 2 =>
        rw [Nat.add_mod_right]
        exact hkind i (by simpa using hi)

/-- An alternating stream is a literal with what may stand after one. -/
theorem alternating_cons {l : Token} {ts : List Token} :
    Alternating (l :: ts) ↔ l.kind = .literal ∧ AfterLiteral ts := by
  cases ts with
  | nil => simp [Alternating]
  | cons t ts => exact alternating_cons_cons

/-- A stream stays alternating when it goes on as it may after a literal. -/
theorem Alternating.append {ts us : List Token} (hts : Alternating ts) (hus : AfterLiteral us) :
    Alternating (ts ++ us) := by
  match ts with
  | [] => exact absurd hts not_alternating_nil
  | [l] =>
      rw [alternating_cons] at hts
      exact alternating_cons.mpr ⟨hts.1, hus⟩
  | l :: t :: ts =>
      obtain ⟨hl, ht, hrest⟩ := alternating_cons_cons.mp hts
      exact alternating_cons_cons.mpr ⟨hl, ht, hrest.append hus⟩

theorem Alternating.getLast {ts : List Token} (h : Alternating ts) :
    ∃ pre l, ts = pre ++ [l] ∧ l.kind = .literal := by
  obtain ⟨hodd, hkind⟩ := h
  rcases List.eq_nil_or_concat ts with rfl | ⟨pre, l, hts⟩
  · simp at hodd
  · rw [List.concat_eq_append] at hts
    subst hts
    have hlast := hkind pre.length (by simp)
    simp only [List.length_append, List.length_singleton] at hodd
    rw [List.getElem_concat_length rfl] at hlast
    exact ⟨pre, l, rfl, hlast.mpr (by omega)⟩

end Stencil

import Stencil.Evaluate
import Stencil.Proofs.Relations

/-!
# Two evaluations in lockstep

Two evaluations are taken side by side, on runs that a relation `q` of our choice connects: they come
to related values or to the same failure, and to connected runs again (`Eval.Lockstep`). The filters of
the two need not keep states of one type. Each way to put evaluations together keeps this, so that a
statement about two renders has to look at the places only where they differ.
-/

namespace Stencil

variable {σ σ' : Type} {q : Run σ → Run σ' → Prop}

/-- From connected runs, two evaluations come to related values or to the same failure, and to
connected runs again. -/
def Eval.Lockstep {α β : Type} (q : Run σ → Run σ' → Prop) (r : α → β → Prop) (x : Eval σ α)
    (y : Eval σ' β) : Prop :=
  ∀ run run', q run run' → SameOutcome r (x run).1 (y run').1 ∧ q (x run).2 (y run').2

namespace Eval.Lockstep

variable {α α' β β' : Type} {r : α → β → Prop} {s : α' → β' → Prop}

theorem ofExcept {x : Except Failure α} {y : Except Failure β} (h : SameOutcome r x y) :
    Eval.Lockstep q r (.ofExcept x) (.ofExcept y) :=
  fun _ _ hrun => ⟨h, hrun⟩

theorem pure {a : α} {b : β} (h : r a b) : Eval.Lockstep q r (Pure.pure a) (Pure.pure b) :=
  fun _ _ hrun => ⟨.ok h, hrun⟩

theorem throw (failure : Failure) :
    Eval.Lockstep q r (MonadExcept.throw failure) (MonadExcept.throw failure) :=
  fun _ _ hrun => ⟨.error failure, hrun⟩

theorem bind {x : Eval σ α} {y : Eval σ' β} {f : α → Eval σ α'} {g : β → Eval σ' β'}
    (hxy : Eval.Lockstep q r x y) (hfg : ∀ a b, r a b → Eval.Lockstep q s (f a) (g b)) :
    Eval.Lockstep q s (x >>= f) (y >>= g) := by
  intro run run' hrun
  obtain ⟨houtcome, hnext⟩ := hxy run run' hrun
  simp only [Bind.bind, ExceptT.bind, ExceptT.mk, StateT.bind]
  generalize x run = left at houtcome hnext ⊢
  generalize y run' = right at houtcome hnext ⊢
  obtain ⟨outcome, next⟩ := left
  obtain ⟨outcome', next'⟩ := right
  cases houtcome with
  | ok h => exact hfg _ _ h next next' hnext
  | error failure => exact ⟨.error failure, hnext⟩

theorem mapFailure {x : Eval σ α} {y : Eval σ' β} (h : Eval.Lockstep q r x y)
    (f : Failure → Failure) : Eval.Lockstep q r (x.mapFailure f) (y.mapFailure f) := by
  intro run run' hrun
  obtain ⟨houtcome, hnext⟩ := h run run' hrun
  exact ⟨houtcome.mapError f, hnext⟩

theorem shown (v : Value) : Eval.Lockstep q Eq (Eval.shown v : Eval σ String) (Eval.shown v) :=
  ofExcept (.refl (fun _ => rfl) _)

end Eval.Lockstep

end Stencil

import Mathlib.Data.List.Forall2
import Stencil.Proofs.GrammarExact

/-!
# How the parser refuses a stream

When reading stops, the state of the parser tells what the error shows. A symbol is refused with a
span that covers it, a literal behind a symbol with a span from the opening symbol of the innermost
construct on, and at the end of the tokens it is the rest from there on (`placed_of_whole_error`).

Two facts about states carry this. The constructs that a state holds open are those that the tokens
so far leave open (`Reads.openings`). And a state waits for a literal just behind a symbol that
needs one (`Reads.due`), so that in an alternating stream a literal stands wherever one is due.
-/

namespace Stencil

open Text Parse Grammar

/-! ## Open constructs -/

/-- What is open, the innermost first, behind one more token, of this kind. -/
def opened {α : Type} (kind : TokenKind) (x : α) (rest : List α) : List α :=
  match kind with
  | .varStart | .groupStart => x :: rest
  | .varEnd | .groupEnd => rest.tail
  | _ => rest

/-- The opening symbols of what is open behind some tokens, the innermost first. -/
def openBehind (ts : List Token) : List Token :=
  ts.foldl (fun rest t => opened t.kind t rest) []

theorem opened_forall₂ {α β : Type} {R : α → β → Prop} {xs : List α} {ys : List β} {x : α} {y : β}
    (h : List.Forall₂ R xs ys) (hx : R x y) (kind : TokenKind) :
    List.Forall₂ R (opened kind x xs) (opened kind y ys) := by
  cases kind with
  | varStart | groupStart => exact .cons hx h
  | varEnd | groupEnd => cases h with
    | nil => exact .nil
    | cons _ h => exact h
  | literal | filter | param => exact h

theorem forall_mem_opened {α : Type} {P : α → Prop} {kind : TokenKind} {x : α} {rest : List α}
    (hx : kind = .varStart ∨ kind = .groupStart → P x) (h : ∀ y ∈ rest, P y) :
    ∀ y ∈ opened kind x rest, P y := by
  cases kind with
  | varStart => exact List.forall_mem_cons.mpr ⟨hx (.inl rfl), h⟩
  | groupStart => exact List.forall_mem_cons.mpr ⟨hx (.inr rfl), h⟩
  | varEnd | groupEnd => exact fun y hy => h y (List.mem_of_mem_tail hy)
  | literal | filter | param => exact h

theorem kind_of_mem_openBehind {ts : List Token} :
    ∀ o ∈ openBehind ts, o.kind = .varStart ∨ o.kind = .groupStart := by
  have hfold : ∀ rest : List Token, (∀ o ∈ rest, o.kind = .varStart ∨ o.kind = .groupStart) →
      ∀ o ∈ ts.foldl (fun rest t => opened t.kind t rest) rest,
        o.kind = .varStart ∨ o.kind = .groupStart := by
    induction ts with
    | nil => exact fun _ h => h
    | cons t ts ih => exact fun rest h => ih _ (forall_mem_opened id h)
  exact hfold [] nofun

/-- Literals neither open nor close anything. -/
theorem openBehind_filter (ts : List Token) :
    openBehind (ts.filter (·.kind ≠ .literal)) = openBehind ts := by
  rw [openBehind, List.foldl_filter, openBehind]
  congr 1
  funext rest t
  cases ht : t.kind <;> simp [opened]

/-! ## Literals where one is due -/

/-- What can be wrong with the text of a literal behind a symbol of a kind. -/
inductive BadLiteral : TokenKind → String → ParseCause → Prop
  | path {text : String} (h : strip text.toList = []) : BadLiteral .varStart text .emptyPath
  | segment {text : String} (h : strip text.toList ≠ []) (hs : [] ∈ pathSegments text) :
      BadLiteral .varStart text .emptyPathSegment
  | name {text : String} (h : strip text.toList = []) :
      BadLiteral .filter text .missingFilterName
  | value {text : String} (h : strip text.toList = []) : BadLiteral .param text .missingParameter
  | param {text : String} {why : Param.Invalid} (h : strip text.toList ≠ [])
      (hp : Param.ofText text = .error why) : BadLiteral .param text (.badParameter why)

theorem BadLiteral.kind_ne {kind : TokenKind} {text : String} {cause : ParseCause}
    (h : BadLiteral kind text cause) : kind ≠ .literal := by
  cases h <;> exact nofun

theorem BadLiteral.cause_ne {kind k : TokenKind} {text : String} {cause : ParseCause}
    (h : BadLiteral kind text cause) (p : Int) : cause ≠ .unexpected k p := by
  cases h <;> exact nofun

namespace Parse

namespace Chain

variable {i : Nat} {t : Token} {c c' : Chain} {closing : TokenKind} {stop : Stop}

/-- The kind of symbol behind which the chain waits for a literal, if it does. -/
def due? (c : Chain) : Option TokenKind :=
  match c.stage with
  | .name => some .filter
  | .value _ => some .param
  | _ => none

theorem AtRest.due (h : c.AtRest) : c.due? = none := by
  rcases h with h | ⟨name, h⟩ <;> rw [due?, h]

theorem Moves.due (h : c.Moves t c') (ht : t.kind ≠ .literal) : c'.due? = some t.kind := by
  cases h with
  | filter _ hk => rw [hk]; rfl
  | name _ hk => exact absurd hk ht
  | param _ hk => rw [hk]; rfl
  | value _ hk => exact absurd hk ht

theorem Moves.opening (h : c.Moves t c') : c'.opening = c.opening := by
  cases h <;> rfl

/-- How a chain refuses a token: a symbol, or a bad literal. -/
inductive Refuses (i : Nat) (t : Token) (c : Chain) : Stop → Prop
  | symbol (ht : t.kind ≠ .literal) :
      Refuses i t c (malformed (.unexpected t.kind t.position) c.opening (i + 1) i)
  | literal {kind : TokenKind} {cause : ParseCause} {stop : Nat} (hdue : c.due? = some kind)
      (hbad : BadLiteral kind t.text cause) (hstop : i < stop) :
      Refuses i t c (malformed cause c.opening stop (i + 1))

theorem next_refuses {calls : List Call} (ht : t.kind ≠ .literal)
    (h : next closing i t c.opening calls = .fail stop) : c.Refuses i t stop := by
  unfold next at h
  split at h
  · cases h
  · split at h
    · cases h
    · cases h
      exact .symbol ht

/-- The exit for what stands in the place of a literal is not taken, as a literal stands there. -/
theorem step_refuses (hfit : t.kind = .literal ↔ c.due?.isSome)
    (h : c.step closing i t = .fail stop) : c.Refuses i t stop := by
  rw [due?] at hfit
  cases hc : c.stage with
  | rest =>
      rw [step, hc] at h
      rw [hc] at hfit
      exact next_refuses (fun ht => Bool.false_ne_true (hfit.mp ht)) h
  | named name =>
      simp only [step, hc] at h
      rw [hc] at hfit
      split at h
      · cases h
      · exact next_refuses (fun ht => Bool.false_ne_true (hfit.mp ht)) h
  | name =>
      have hdue : c.due? = some .filter := by rw [due?, hc]
      have ht : t.kind = .literal := hfit.mpr (by rw [hc]; rfl)
      simp only [step, hc, ht, ne_eq, not_true_eq_false, if_false] at h
      split at h
      · next hs =>
          cases h
          exact .literal hdue (.name hs) (by omega)
      · cases h
  | value name =>
      have hdue : c.due? = some .param := by rw [due?, hc]
      have ht : t.kind = .literal := hfit.mpr (by rw [hc]; rfl)
      simp only [step, hc, ht, ne_eq, not_true_eq_false, if_false] at h
      split at h
      · next hs =>
          cases h
          exact .literal hdue (.value hs) (by omega)
      · next hs =>
          split at h
          · cases h
          · next hp =>
              cases h
              exact .literal hdue (.param hs hp) (by omega)

end Chain

namespace State

variable {symbols : Symbols} {i : Nat} {t : Token} {s s' : State} {stop : Stop}

/-! ## What a state holds open -/

theorem openings_of_groupChain {c : Chain} (h : s.groupChain = some c) :
    s.openings
      = (.groupStart, c.opening) :: (s.outer.map fun g => (.groupStart, g.opening)).tail := by
  unfold groupChain at h
  split at h
  · next hs => cases h; rw [openings, hs]
  · next hs ho => cases h; rw [openings, hs, ho]; rfl
  · cases h

/-- A transition opens and closes what its token opens and closes. -/
theorem Moves.openings (h : s.Moves symbols i t s') :
    s'.openings = opened t.kind (t.kind, i) s.openings := by
  cases h with
  | literal hs ht => simp only [State.openings, opened, push_phase, push_outer, hs, ht]
  | varStart hs ht => simp only [State.openings, opened, hs, ht]
  | path hs ht => simp only [State.openings, opened, hs, ht]
  | «variable» hs hc =>
      rcases hc.kind with ht | ht | ht <;>
        simp only [State.openings, opened, hs, ht, hc.opening]
  | varEnd hs _ ht => simp only [State.openings, opened, closeVariable, hs, ht, List.tail_cons]
  | groupStart hs ht => simp only [State.openings, opened, hs, ht, List.map_cons]
  | filters hs hc =>
      rw [openings_of_groupChain hs]
      rcases hc.kind with ht | ht | ht <;> simp only [State.openings, opened, ht, hc.opening]
  | groupEnd hs _ ht =>
      rw [openings_of_groupChain hs]
      simp only [State.openings, opened, closeGroup_phase, closeGroup_outer, ht, List.tail_cons,
        List.map_tail]

/-- The symbol stands at its index. -/
def Stands (ts : List Token) (opening : TokenKind × Nat) (u : Token) : Prop :=
  ts[opening.2]? = some u ∧ u.kind = opening.1

theorem Stands.append {ts : List Token} {opening : TokenKind × Nat} {u : Token}
    (h : Stands ts opening u) (us : List Token) : Stands (ts ++ us) opening u :=
  ⟨List.getElem?_append_left (List.getElem?_eq_some_iff.mp h.1).1 ▸ h.1, h.2⟩

/-- The constructs that are open in the state are those that the tokens leave open. -/
theorem Reads.openings {ts pre : List Token} {us : List Token} (h : Reads symbols s i ts s')
    (hi : pre.length = i) (hs : List.Forall₂ (Stands pre) s.openings us) :
    List.Forall₂ (Stands (pre ++ ts)) s'.openings
      (ts.foldl (fun rest t => opened t.kind t rest) us) := by
  induction h generalizing pre us with
  | nil => rwa [List.append_nil]
  | @cons s m s' i t ts hmove _ ih =>
      have ht : Stands (pre ++ [t]) (t.kind, i) t := ⟨by simp [← hi], rfl⟩
      have hm : List.Forall₂ (Stands (pre ++ [t])) m.openings (opened t.kind t us) :=
        hmove.openings ▸ opened_forall₂ (hs.imp fun _ _ h => h.append [t]) ht t.kind
      rw [List.append_cons]
      exact ih (by simp [hi]) hm

/-! ## What a state waits for -/

/-- The kind of symbol behind which the state waits for a literal, if it does. -/
def due? (s : State) : Option TokenKind :=
  match s.phase with
  | .nodes => none
  | .path _ => some .varStart
  | .variable _ _ c => c.due?
  | .filters c => c.due?

theorem AtRest.due (h : s.AtRest) : s.due? = none := by
  cases hs : s.phase with
  | nodes => rw [due?, hs]
  | path opening => rw [AtRest, hs] at h; exact h.elim
  | «variable» path text c =>
      rw [AtRest, hs] at h
      rw [due?, hs]
      exact Chain.AtRest.due h
  | filters c =>
      rw [AtRest, hs] at h
      rw [due?, hs]
      exact Chain.AtRest.due h

/-- Behind a symbol a node may follow, or that symbol makes a literal due. -/
theorem Moves.due (h : s.Moves symbols i t s') (ht : t.kind ≠ .literal) :
    s'.phase = .nodes ∨ s'.due? = some t.kind := by
  cases h with
  | literal _ hk => exact absurd hk ht
  | varStart _ hk => exact .inr (by rw [hk]; rfl)
  | path _ hk => exact absurd hk ht
  | «variable» _ hc => exact .inr (hc.due ht)
  | varEnd => exact .inl rfl
  | groupStart => exact .inl rfl
  | filters _ hc => exact .inr (hc.due ht)
  | groupEnd => exact .inl (closeGroup_phase _ s)

theorem Reads.of_concat {ts : List Token} {u : Token} (h : Reads symbols s i (ts ++ [u]) s') :
    ∃ (m : State) (j : Nat), m.Moves symbols j u s' := by
  induction ts generalizing s i with
  | nil => cases h with
    | cons hmove hr => cases hr; exact ⟨s, i, hmove⟩
  | cons t ts ih => cases h with
    | cons _ hr => exact ih hr

/-- In an alternating stream a literal is due where one stands, unless a node may follow. -/
theorem Reads.due {pre post : List Token} (h : Reads symbols {} 0 pre s)
    (hts : Alternating (pre ++ t :: post)) :
    (t.kind = .literal ∧ (s.phase = .nodes ∨ ∃ front u, pre = front ++ [u] ∧ s.due? = some u.kind))
      ∨ t.kind ≠ .literal ∧ s.due? = none := by
  rcases List.eq_nil_or_concat pre with rfl | ⟨front, u, hpre⟩
  · cases h
    exact .inl ⟨(alternating_cons.mp hts).1, .inl rfl⟩
  · rw [List.concat_eq_append] at hpre
    subst hpre
    obtain ⟨m, j, hmove⟩ := h.of_concat
    -- of the last token that is read and the next one, one is a literal
    have hu := hts.2 front.length (by simp)
    have ht := hts.2 (front.length + 1) (by simp)
    simp only [List.append_assoc, List.cons_append, List.nil_append, List.getElem_append_right,
      List.getElem_cons_zero, Nat.le_refl, Nat.sub_self, Nat.le_add_right, Nat.add_sub_cancel_left,
      List.getElem_cons_succ] at hu ht
    by_cases hkind : t.kind = .literal
    · have heven := ht.mp hkind
      have hsymbol : u.kind ≠ .literal := fun hl => by
        have hodd := hu.mp hl
        omega
      refine .inl ⟨hkind, ?_⟩
      exact (hmove.due hsymbol).imp_right fun hdue => ⟨front, u, rfl, hdue⟩
    · have hodd := mt ht.mpr hkind
      have hliteral : u.kind = .literal := hu.mpr (by omega)
      exact .inr ⟨hkind, (hmove.atRest hliteral).due⟩

/-! ## Refused tokens -/

/-- How a state refuses a token: a symbol with a span that covers it, or a bad literal with a span
from the innermost opening symbol on. -/
inductive Refuses (i : Nat) (t : Token) (s : State) : Stop → Prop
  | symbol {cause : ParseCause} {start stop : Nat} (ht : t.kind ≠ .literal)
      (hcause : cause ∈ [.unexpected t.kind t.position, .unexpectedInGroup t.kind t.position])
      (hstart : start ≤ i) (hstop : i < stop) : Refuses i t s (malformed cause start stop i)
  | literal {kind opener : TokenKind} {cause : ParseCause} {opening stop : Nat}
      (hdue : s.due? = some kind) (hbad : BadLiteral kind t.text cause)
      (hopen : s.openings.head? = some (opener, opening)) (hstop : i < stop) :
      Refuses i t s (malformed cause opening stop (i + 1))

theorem Refuses.of_chain {c : Chain} {opener : TokenKind} {rest : List (TokenKind × Nat)}
    (h : c.Refuses i t stop) (hdue : s.due? = c.due?)
    (hopen : s.openings = (opener, c.opening) :: rest) (hi : c.opening < i) :
    s.Refuses i t stop := by
  cases h with
  | symbol ht => exact .symbol ht List.mem_cons_self (by omega) (by omega)
  | literal hc hbad hstop => exact .literal (hdue.trans hc) hbad (by rw [hopen]; rfl) hstop

theorem due_of_groupChain {c : Chain} (h : s.groupChain = some c) : s.due? = c.due? := by
  unfold groupChain at h
  split at h
  · next hs => cases h; rw [due?, hs]
  · next hs _ => cases h; rw [due?, hs]; rfl
  · cases h

theorem readFilters_refuses {c : Chain} (hc : s.groupChain = some c)
    (hopen : ∀ opening ∈ s.openings, opening.2 < i) (hfit : t.kind = .literal ↔ s.due?.isSome)
    (h : (s.readFilters i t c).stop? i t = some stop) : s.Refuses i t stop := by
  have hdue := due_of_groupChain hc
  have hopenings := openings_of_groupChain hc
  rw [hdue] at hfit
  rw [readFilters] at h
  cases hstep : c.step .groupEnd i t with
  | more c' => rw [hstep] at h; cases h
  | close calls => rw [hstep] at h; cases h
  | fail stop' =>
      rw [hstep] at h
      cases h
      refine .of_chain (Chain.step_refuses hfit hstep) hdue hopenings ?_
      exact hopen _ (hopenings ▸ List.mem_cons_self)

theorem readVariable_refuses {path : List String} {text : String} {c : Chain}
    (hs : s.phase = .variable path text c) (hopen : ∀ opening ∈ s.openings, opening.2 < i)
    (hfit : t.kind = .literal ↔ s.due?.isSome)
    (h : (s.readVariable symbols i t path text c).stop? i t = some stop) : s.Refuses i t stop := by
  have hdue : s.due? = c.due? := by rw [due?, hs]
  have hopenings : s.openings
      = (.varStart, c.opening) :: s.outer.map fun g => (.groupStart, g.opening) := by
    rw [openings, hs]
  rw [hdue] at hfit
  rw [readVariable] at h
  cases hstep : c.step .varEnd i t with
  | more c' => rw [hstep] at h; cases h
  | close calls => rw [hstep] at h; cases h
  | fail stop' =>
      rw [hstep] at h
      cases h
      refine .of_chain (Chain.step_refuses hfit hstep) hdue hopenings ?_
      exact hopen _ (hopenings ▸ List.mem_cons_self)

theorem readPath_refuses {opening : Nat} (hs : s.phase = .path opening)
    (hfit : t.kind = .literal ↔ s.due?.isSome)
    (h : (s.readPath i t opening).stop? i t = some stop) : s.Refuses i t stop := by
  have hdue : s.due? = some .varStart := by rw [due?, hs]
  have ht : t.kind = .literal := hfit.mpr (by rw [hdue]; rfl)
  have hhead : s.openings.head? = some (.varStart, opening) := by rw [openings, hs]; rfl
  simp only [readPath, ht, ne_eq, not_true_eq_false, if_false] at h
  split at h
  · next hany =>
      cases h
      obtain ⟨segment, hmem, hempty⟩ := List.any_eq_true.mp hany
      rw [segmentsOf_eq, List.isEmpty_iff.mp hempty] at hmem
      refine .literal hdue ?_ hhead (by omega)
      split
      · next hblank => exact .path (List.isEmpty_iff.mp hblank)
      · next hblank => exact .segment (fun hnil => hblank (List.isEmpty_iff.mpr hnil)) hmem
  · cases h

theorem readNode_refuses (hs : s.phase = .nodes) (hopen : ∀ opening ∈ s.openings, opening.2 < i)
    (ht : t.kind ≠ .literal) (hstuck : ∀ s', ¬s.Moves symbols i t s')
    (h : (s.readNode .template i t).stop? i t = some stop) : s.Refuses i t stop := by
  have hfit : t.kind = .literal ↔ s.due?.isSome := by
    rw [due?, hs]
    exact iff_of_false ht Bool.false_ne_true
  simp only [readNode, reduceCtorEq, decide_false, Bool.and_false, Bool.false_eq_true, if_false,
    decide_true, Bool.and_true] at h
  cases hkind : t.kind with
  | literal => exact absurd hkind ht
  | varStart => exact absurd (Moves.varStart hs hkind) (hstuck _)
  | groupStart => cases s; cases hs; exact absurd (Moves.groupStart rfl hkind) (hstuck _)
  | filter | groupEnd =>
      cases ho : s.outer with
      | nil =>
          simp only [hkind, ho] at h
          cases h
          exact .symbol ht (by simp [hkind]) (by omega) (by omega)
      | cons g outer =>
          simp only [hkind, ho] at h
          exact readFilters_refuses (by rw [groupChain, hs, ho]) hopen hfit h
  | varEnd | param =>
      simp only [hkind] at h
      split at h <;> cases h <;> exact .symbol ht (by simp [hkind]) (by omega) (by omega)

/-- A token that a state does not take up is refused, if a literal stands where one is due. -/
theorem step_refuses (hopen : ∀ opening ∈ s.openings, opening.2 < i)
    (hfit : s.phase = .nodes ∨ (t.kind = .literal ↔ s.due?.isSome))
    (hstuck : ∀ s', ¬s.Moves symbols i t s')
    (h : (s.step symbols .template i t).stop? i t = some stop) : s.Refuses i t stop := by
  have hfit' : s.phase ≠ .nodes → (t.kind = .literal ↔ s.due?.isSome) := hfit.resolve_left
  cases hs : s.phase with
  | nodes =>
      rw [step, hs] at h
      exact readNode_refuses hs hopen (fun ht => hstuck _ (.literal hs ht)) hstuck h
  | path opening =>
      rw [step, hs] at h
      exact readPath_refuses hs (hfit' (by simp [hs])) h
  | «variable» path text c =>
      rw [step, hs] at h
      exact readVariable_refuses hs hopen (hfit' (by simp [hs])) h
  | filters c =>
      rw [step, hs] at h
      exact readFilters_refuses (by rw [groupChain, hs]) hopen (hfit' (by simp [hs])) h

end State

/-! ## Errors in streams -/

/-- What an error tells about its place in a stream: there is a symbol, and the span covers it; or
there is a bad literal behind a symbol, and the span goes from the innermost opening symbol over the
literal; or the stream has ended, and the span is all from the innermost opening symbol on. -/
inductive Stop.Placed (ts : List Token) : Stop → Prop
  | symbol {pre post : List Token} {t : Token} {cause : ParseCause} {start stop : Nat}
      (hts : ts = pre ++ t :: post) (ht : t.kind ≠ .literal)
      (hcause : cause ∈ [.unexpected t.kind t.position, .unexpectedInGroup t.kind t.position])
      (hstart : start ≤ pre.length) (hstop : pre.length < stop) :
      Placed ts (malformed cause start stop pre.length)
  | literal {pre post : List Token} {u t o : Token} {cause : ParseCause} {opening stop : Nat}
      (hts : ts = pre ++ u :: t :: post) (ht : t.kind = .literal)
      (hbad : BadLiteral u.kind t.text cause) (ho : (openBehind (pre ++ [u])).head? = some o)
      (hopening : (pre ++ [u])[opening]? = some o) (hstop : pre.length + 1 < stop) :
      Placed ts (malformed cause opening stop (pre.length + 2))
  | unmatched {o : Token} {opening : Nat} (ho : (openBehind ts).head? = some o)
      (hopening : ts[opening]? = some o) :
      Placed ts ⟨.malformed (.unmatched (unmatchedMessage o.kind)) ⟨opening, none⟩, ts.length⟩

/-- No error is one about a symbol in the place of a literal. -/
theorem Stop.Placed.ne_notLiteral {ts : List Token} {stop : Stop} (h : stop.Placed ts) (i : Nat)
    (t : Token) : stop ≠ Chain.notLiteral i t := by
  intro heq
  cases h with
  | symbol hts ht hcause hstart hstop =>
      simp only [Chain.notLiteral, malformed, Stop.mk.injEq, ParseFault.malformed.injEq,
        Span.mk.injEq, Option.some.injEq] at heq
      omega
  | literal hts ht hbad =>
      simp only [Chain.notLiteral, malformed, Stop.mk.injEq, ParseFault.malformed.injEq] at heq
      exact hbad.cause_ne _ heq.1.1
  | unmatched => cases heq

variable {symbols : Symbols} {ts : List Token} {s : State} {stop : Stop}

/-- What is open in a state that the tokens lead to. -/
theorem State.Reads.forall₂_openings (h : State.Reads symbols {} 0 ts s) :
    List.Forall₂ (State.Stands ts) s.openings (openBehind ts) := by
  have hstart : List.Forall₂ (State.Stands []) (State.openings {}) [] := .nil
  exact h.openings rfl hstart

theorem State.Reads.exists_opening {kind : TokenKind} {opening : Nat}
    (h : State.Reads symbols {} 0 ts s) (hopen : s.openings.head? = some (kind, opening)) :
    ∃ o, (openBehind ts).head? = some o ∧ ts[opening]? = some o ∧ o.kind = kind := by
  have hall := h.forall₂_openings
  generalize s.openings = openings at hall hopen
  generalize openBehind ts = us at hall
  cases hall with
  | nil => cases hopen
  | cons hstands _ => cases hopen; exact ⟨_, rfl, hstands⟩

theorem State.Reads.opening_lt (h : State.Reads symbols {} 0 ts s) :
    ∀ opening ∈ s.openings, opening.2 < ts.length := by
  intro opening hmem
  obtain ⟨i, hi, rfl⟩ := List.mem_iff_getElem.mp hmem
  have hall := h.forall₂_openings
  obtain ⟨hstands, -⟩ := hall.get hi (hall.length_eq ▸ hi)
  exact (List.getElem?_eq_some_iff.mp hstands).1

/-- An error of an alternating stream tells its place. -/
theorem placed_of_whole_error (hts : Alternating ts) (h : whole symbols ts = .error stop) :
    stop.Placed ts := by
  rcases State.reads_or_stuck symbols {} 0 ts with ⟨s, hr⟩ | ⟨pre, t, post, s, rfl, hr, hstuck⟩
  · rcases (hr.atRest hts).complete_or_unmatched with hs | ⟨kind, opening, rest, hopen, hfinish⟩
    · cases h.symm.trans (whole_of_complete hr hs)
    · obtain ⟨o, ho, hopening, rfl⟩ := hr.exists_opening (by rw [hopen]; rfl)
      cases h.symm.trans (whole_of_finish hr (hfinish ts.length))
      exact .unmatched ho hopening
  · rw [Nat.zero_add] at hstuck
    obtain ⟨stop', hstop⟩ := State.exists_stop_of_stuck hstuck
    cases h.symm.trans (whole_of_stop hr hstop post)
    have hfit : s.phase = .nodes ∨ (t.kind = .literal ↔ s.due?.isSome) := by
      rcases hr.due hts with ⟨ht, hnodes | ⟨front, u, -, hdue⟩⟩ | ⟨ht, hdue⟩
      · exact .inl hnodes
      · exact .inr (iff_of_true ht (by rw [hdue]; rfl))
      · exact .inr (iff_of_false ht (by rw [hdue]; exact Bool.false_ne_true))
    cases State.step_refuses hr.opening_lt hfit hstuck hstop with
    | symbol ht hcause hstart hlt => exact .symbol rfl ht hcause hstart hlt
    | literal hdue hbad hopen hlt =>
        obtain ⟨o, ho, hopening, -⟩ := hr.exists_opening hopen
        rcases hr.due hts with ⟨ht, hnodes | ⟨front, u, rfl, hu⟩⟩ | ⟨-, hnone⟩
        · rw [State.due?, hnodes] at hdue
          cases hdue
        · cases hdue.symm.trans hu
          have hsplit : front ++ [u] ++ t :: post = front ++ u :: t :: post := List.append_assoc ..
          rw [List.length_append] at hlt ⊢
          exact .literal hsplit ht hbad ho hopening hlt
        · cases hdue.symm.trans hnone

end Parse

end Stencil

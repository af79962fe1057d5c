import Stencil.Proofs.Descent
import Stencil.Proofs.Refusals
import Stencil.Proofs.Relations

/-!
# The cursor of the descent

But for the loops, nothing in the parser asks whether there is a next token before it takes one up.
Still the cursor moves forward only and stays within the stream, whatever the tokens are: neither
their order nor their kinds have to be what the tokenizer writes. `CursorSafe` says so for every
part of the descent, with the equations by which the parts call each other, and `cursorSafe` proves
it for every list of tokens.

The one way to run past the end is to wait for a literal there. Then the last token is a symbol
behind which a literal is due (`getLast?_of_pastEnd`).
-/

namespace Stencil.Parse

open Text

variable {symbols : Symbols} {scope : Scope} {tokens : List Token} {closing : TokenKind}
  {unmatched : String} {i j : Nat}

/-! ## Parts of the descent -/

/-- What the descent reads from a place on. Some parts know where their construct opens. -/
inductive Part where
  | literal
  | nodes (scope : Scope)
  | variable
  | group
  | path (opening : Nat)
  | filters (closing : TokenKind) (unmatched : String) (opening : Nat)
  | call (opening : Nat)

/-- The cursor behind a part that is read from the token with index `i` on, or at its fault. -/
def Part.cursor (symbols : Symbols) (tokens : List Token) (i : Nat) : Part → Nat
  | .literal => cursorAfter (literalAt tokens i)
  | .nodes scope => cursorAfter (nodesAt symbols scope tokens i)
  | .variable => cursorAfter (variableAt symbols tokens i)
  | .group => cursorAfter (groupAt symbols tokens i)
  | .path opening => cursorAfter (pathAt opening tokens i)
  | .filters closing unmatched opening =>
    cursorAfter (filtersAt closing unmatched opening tokens i)
  | .call opening => cursorAfter (callAt opening tokens i)

/-- A part in two steps, the second of which starts where the first one leaves the cursor. -/
theorem Forward.bind {α β : Type} {r : Except Stop (α × Nat)}
    {next : α × Nat → Except Stop (β × Nat)} (h : Forward tokens i r)
    (hnext : ∀ a j, Forward tokens j (next (a, j))) : Forward tokens i (r >>= next) := by
  rcases r with stop | ⟨a, j⟩
  · exact h
  · have hrest : Forward tokens j (next (a, j)) := hnext a j
    exact ⟨Nat.le_trans h.1 hrest.1, fun hi => hrest.2 (h.2 hi)⟩

/-- A result, or a fault, at the cursor itself. -/
theorem forward_of_eq {α : Type} {r : Except Stop (α × Nat)} (h : cursorAfter r = i) :
    Forward tokens i r := by
  rw [Forward, h]
  exact ⟨Nat.le_refl i, id⟩

theorem forward_literalAt (tokens : List Token) (i : Nat) :
    Forward tokens i (literalAt tokens i) := by
  unfold literalAt
  cases ht : tokens[i]? with
  | none => exact forward_of_eq rfl
  | some t =>
      have hi : i < tokens.length := (List.getElem?_eq_some_iff.mp ht).1
      simp only
      split
      · exact ⟨Nat.le_succ i, fun _ => hi⟩
      · exact ⟨Nat.le_succ i, fun _ => hi⟩

theorem forward_pathAt (opening : Nat) (tokens : List Token) (i : Nat) :
    Forward tokens i (pathAt opening tokens i) := by
  refine (forward_literalAt tokens i).bind fun t j => forward_of_eq ?_
  simp only
  split <;> rfl

theorem forward_valueAt (opening : Nat) (name : String) (tokens : List Token) (i : Nat) :
    Forward tokens i (valueAt opening name tokens i) := by
  refine (forward_literalAt tokens i).bind fun t j => forward_of_eq ?_
  simp only
  split
  · rfl
  · split <;> rfl

theorem forward_callAt (opening : Nat) (tokens : List Token) (i : Nat) :
    Forward tokens i (callAt opening tokens i) := by
  refine (forward_literalAt tokens i).bind fun t j => ?_
  simp only
  split
  · exact forward_of_eq rfl
  · split
    · next hparam =>
        obtain ⟨u, hu, -⟩ := (Option.any_eq_true _ _).mp hparam
        exact (forward_valueAt opening _ tokens (j + 1)).of_succ hu
    · exact forward_of_eq rfl

/-- A construct has a symbol to skip, or fails where that is missing. -/
theorem forward_construct (symbols : Symbols) (tokens : List Token) (i : Nat) (s : State) :
    Forward tokens i (constructAt symbols tokens i s) := by
  cases ht : tokens[i]? with
  | none =>
      rw [constructAt, drop_of_getElem?_none ht]
      exact forward_of_eq rfl
  | some t => exact (forward_constructAt s ht).of_succ ht

/-- Every part takes the cursor forward, and not out of the stream. -/
theorem Part.cursor_mem (symbols : Symbols) (part : Part) (hi : i ≤ tokens.length) :
    i ≤ part.cursor symbols tokens i ∧ part.cursor symbols tokens i ≤ tokens.length := by
  have hforward : ∀ {α : Type} {r : Except Stop (α × Nat)}, Forward tokens i r →
      i ≤ cursorAfter r ∧ cursorAfter r ≤ tokens.length := fun h => ⟨h.1, h.2 hi⟩
  cases part with
  | literal => exact hforward (forward_literalAt tokens i)
  | nodes scope => exact hforward (State.forward_runAt {} i)
  | «variable» => exact hforward (forward_construct symbols tokens i _)
  | group => exact hforward (forward_construct symbols tokens i _)
  | path opening => exact hforward (forward_pathAt opening tokens i)
  | filters closing unmatched opening => exact hforward (Chain.forward_runAt { opening } i)
  | call opening => exact hforward (forward_callAt opening tokens i)

/-- A turn that does not leave the loop takes up a filter symbol and what is behind it. -/
theorem lt_of_callTurn {opening : Nat} {call : Call}
    (h : callTurn opening tokens i = .ok (some (call, j))) : i < j ∧ j ≤ tokens.length := by
  unfold callTurn at h
  split at h
  · next hfilter =>
      obtain ⟨t, ht, -⟩ := (Option.any_eq_true _ _).mp hfilter
      have hi : i < tokens.length := (List.getElem?_eq_some_iff.mp ht).1
      have hforward := forward_callAt opening tokens (i + 1)
      cases hcall : callAt opening tokens (i + 1) with
      | error stop =>
          rw [hcall] at h
          cases h
      | ok r =>
          rw [hcall] at h hforward
          cases h
          exact ⟨hforward.1, hforward.2 hi⟩
  · cases h

/-! ## Ends of constructs -/

/-- The cursor stands just behind a token of this kind, which is at `i` or later. -/
def Behind (tokens : List Token) (kind : TokenKind) (i j : Nat) : Prop :=
  ∃ k t, j = k + 1 ∧ i ≤ k ∧ tokens[k]? = some t ∧ t.kind = kind

theorem behind_of_filtersAt {opening k : Nat} {calls : List Call} (hij : i ≤ j)
    (h : filtersAt closing unmatched opening tokens j = .ok (calls, k)) :
    Behind tokens closing i (k + 1) := by
  obtain ⟨t, ht, hkind⟩ := Chain.closing_of_runAt h
  have hforward : Forward tokens j (filtersAt closing unmatched opening tokens j) :=
    Chain.forward_runAt { opening } j
  rw [h] at hforward
  exact ⟨k, t, rfl, Nat.le_trans hij hforward.1, ht, hkind⟩

/-- A construct cannot be read where there is no token. -/
theorem exists_of_constructAt {s : State} {r : List Node × Nat}
    (h : constructAt symbols tokens i s = .ok r) : ∃ t, tokens[i]? = some t := by
  cases ht : tokens[i]? with
  | none =>
      rw [constructAt, drop_of_getElem?_none ht] at h
      cases h
  | some t => exact ⟨t, rfl⟩

theorem behind_of_variableAt {nodes : List Node}
    (h : variableAt symbols tokens i = .ok (nodes, j)) : Behind tokens .varEnd (i + 1) j := by
  obtain ⟨t, ht⟩ := exists_of_constructAt h
  rw [variableAt_eq ht] at h
  obtain ⟨⟨⟨path, text⟩, k⟩, hpath, h⟩ := bind_eq_ok_iff.mp h
  obtain ⟨⟨calls, l⟩, hcalls, h⟩ := bind_eq_ok_iff.mp h
  cases h
  have hforward := forward_pathAt i tokens (i + 1)
  rw [hpath] at hforward
  exact behind_of_filtersAt hforward.1 hcalls

theorem behind_of_groupAt {nodes : List Node}
    (h : groupAt symbols tokens i = .ok (nodes, j)) : Behind tokens .groupEnd (i + 1) j := by
  obtain ⟨t, ht⟩ := exists_of_constructAt h
  rw [groupAt_eq ht] at h
  obtain ⟨⟨children, k⟩, hchildren, h⟩ := bind_eq_ok_iff.mp h
  obtain ⟨⟨calls, l⟩, hcalls, h⟩ := bind_eq_ok_iff.mp h
  cases h
  have hforward : Forward tokens (i + 1) (nodesAt symbols .body tokens (i + 1)) :=
    State.forward_runAt {} (i + 1)
  rw [hchildren] at hforward
  exact behind_of_filtersAt hforward.1 hcalls

/-! ## Whole streams -/

/-- Nothing but the end of the stream ends a reading without a fault. -/
theorem length_of_whole {nodes : List Node} (h : whole symbols tokens = .ok (nodes, i)) :
    i = tokens.length := by
  have hforward : Forward tokens 0 (nodesAt symbols .template tokens 0) := State.forward_runAt {} 0
  unfold whole at h
  split at h
  · cases h
  · next read k hread =>
      rw [hread] at hforward
      split at h
      · next hend =>
          cases h
          exact Nat.le_antisymm (hforward.2 (Nat.zero_le _)) (List.getElem?_eq_none_iff.mp hend)
      · cases h

theorem cursor_whole_le (symbols : Symbols) (tokens : List Token) :
    cursorAfter (whole symbols tokens) ≤ tokens.length := by
  have hforward : Forward tokens 0 (nodesAt symbols .template tokens 0) := State.forward_runAt {} 0
  unfold whole
  split
  · next hread =>
      rw [hread] at hforward
      exact hforward.2 (Nat.zero_le _)
  · next hread =>
      rw [hread] at hforward
      split
      · exact hforward.2 (Nat.zero_le _)
      · exact hforward.2 (Nat.zero_le _)

theorem bodyOf_ne_nil (nodes : List Node) : bodyOf nodes ≠ [] := by
  unfold bodyOf
  split
  · simp
  · next h => simpa using h

theorem ne_nil_of_whole {nodes : List Node} (h : whole symbols tokens = .ok (nodes, i)) :
    nodes ≠ [] := by
  unfold whole at h
  split at h
  · cases h
  · split at h
    · cases h
      exact bodyOf_ne_nil _
    · cases h

theorem whole_of_parse {nodes : List Node} (h : parse symbols tokens = .ok nodes) :
    whole symbols tokens = .ok (nodes, tokens.length) := by
  unfold parse at h
  split at h
  · next hwhole =>
      cases h
      rw [hwhole, length_of_whole hwhole]
  · cases h

/-! ## Past the end -/

/-- The kinds of the symbols behind which a literal is due. -/
def literalDue : List TokenKind :=
  [.varStart, .filter, .param]

theorem Chain.due_mem {c : Chain} {kind : TokenKind} (h : c.due? = some kind) :
    kind ∈ literalDue := by
  unfold due? at h
  split at h
  · cases h
    simp [literalDue]
  · cases h
    simp [literalDue]
  · cases h

theorem State.due_mem {s : State} {kind : TokenKind} (h : s.due? = some kind) :
    kind ∈ literalDue := by
  unfold due? at h
  split at h
  · cases h
  · cases h
    simp [literalDue]
  · exact Chain.due_mem h
  · exact Chain.due_mem h

/-- If a literal is due behind some tokens, it is due behind the last of them. -/
theorem State.Reads.getLast_of_not_atRest {s : State} (h : Reads symbols {} 0 tokens s)
    (hs : ¬s.AtRest) : ∃ t, tokens.getLast? = some t ∧ t.kind ∈ literalDue := by
  rcases List.eq_nil_or_concat tokens with rfl | ⟨front, t, htokens⟩
  · cases h
    exact absurd trivial hs
  · rw [List.concat_eq_append] at htokens
    subst htokens
    obtain ⟨m, k, hmove⟩ := h.of_concat
    refine ⟨t, List.getLast?_concat, ?_⟩
    have hsymbol : t.kind ≠ .literal := fun hl => hs (hmove.atRest hl)
    rcases hmove.due hsymbol with hnodes | hdue
    · exact absurd (by rw [AtRest, hnodes]; trivial) hs
    · exact State.due_mem hdue

/-- Where the tokens end before a literal that has to follow, the last of them is a symbol behind
which one is due. -/
theorem getLast?_of_pastEnd (h : parse symbols tokens = .error .pastEnd) :
    ∃ t, tokens.getLast? = some t ∧ t.kind ∈ literalDue := by
  -- a fault with a cause is none at the end of the tokens
  have hnot : ∀ stop, whole symbols tokens = .error stop → ∀ cause span,
      stop.fault ≠ .malformed cause span := by
    intro stop hwhole cause span hfault
    rw [parse, hwhole] at h
    simp [hfault, ParseFault.failure] at h
  rcases State.reads_or_stuck symbols {} 0 tokens with
    ⟨s, hr⟩ | ⟨pre, t, post, s, rfl, hr, hstuck⟩
  · refine hr.getLast_of_not_atRest fun hs => ?_
    rcases hs.complete_or_unmatched with hcomplete | ⟨kind, opening, _, _, hfinish⟩
    · rw [parse, whole_of_complete hr hcomplete] at h
      cases h
    · exact hnot _ (whole_of_finish hr (hfinish tokens.length)) _ _ rfl
  · rw [Nat.zero_add] at hstuck
    obtain ⟨stop, hstop⟩ := State.exists_stop_of_stuck hstuck
    obtain ⟨cause, span, hfault, -⟩ := State.onToken_of_stop hstop
    exact absurd hfault (hnot stop (whole_of_stop hr hstop post) cause span)

theorem parse_ends (symbols : Symbols) (tokens : List Token) :
    (∃ nodes, parse symbols tokens = .ok nodes ∧ nodes ≠ [])
      ∨ (∃ error, parse symbols tokens = .error (.malformed error))
      ∨ parse symbols tokens = .error .pastEnd
        ∧ ∃ t, tokens.getLast? = some t ∧ t.kind ∈ literalDue := by
  cases h : parse symbols tokens with
  | ok nodes => exact .inl ⟨nodes, rfl, ne_nil_of_whole (whole_of_parse h)⟩
  | error failure => cases failure with
    | malformed error => exact .inr (.inl ⟨error, rfl⟩)
    | pastEnd => exact .inr (.inr ⟨rfl, getLast?_of_pastEnd h⟩)

/-! ## The whole descent -/

/-- The cursor of the parser is safe on some tokens. The equations say how the parts of the descent
are made up: of parts each of which is read from where the one before it leaves the cursor, and of
loops, whose turns either leave the loop or take the cursor ahead. -/
structure CursorSafe (symbols : Symbols) (tokens : List Token) : Prop where
  /-- There are nodes, an error with a message, or the tokens end behind a symbol that lacks its
  literal. -/
  ends : (∃ nodes, parse symbols tokens = .ok nodes ∧ nodes ≠ [])
    ∨ (∃ error, parse symbols tokens = .error (.malformed error))
    ∨ parse symbols tokens = .error .pastEnd
      ∧ ∃ t, tokens.getLast? = some t ∧ t.kind ∈ literalDue
  /-- With nodes the cursor is at the end of the tokens. -/
  success : ∀ nodes, parse symbols tokens = .ok nodes →
    whole symbols tokens = .ok (nodes, tokens.length)
  /-- With a failure it is within the tokens. -/
  failure : ∀ stop, whole symbols tokens = .error stop → stop.cursor ≤ tokens.length
  /-- No part takes the cursor back or out of the tokens, whether it is read or found faulty. -/
  forward : ∀ part i, i ≤ tokens.length →
    i ≤ Part.cursor symbols tokens i part ∧ Part.cursor symbols tokens i part ≤ tokens.length
  /-- Nodes are a loop. -/
  nodes_loop : ∀ scope i, scope ≠ .construct → nodesAt symbols scope tokens i = (do
    match ← nodeTurn symbols scope tokens i with
    | some (nodes, j) =>
      let (more, k) ← nodesAt symbols scope tokens j
      return (nodes ++ more, k)
    | none => return ([], i))
  nodes_turn : ∀ scope i nodes j,
    nodeTurn symbols scope tokens i = .ok (some (nodes, j)) → i < j ∧ j ≤ tokens.length
  /-- Filter calls are a loop, behind which the closing symbol must stand. -/
  filters_loop : ∀ closing unmatched opening i, filtersAt closing unmatched opening tokens i = (do
    match ← callTurn opening tokens i with
    | some (call, j) =>
      let (calls, k) ← filtersAt closing unmatched opening tokens j
      return (call :: calls, k)
    | none =>
      closingAt closing unmatched opening tokens i
      return ([], i))
  filters_turn : ∀ opening i call j,
    callTurn opening tokens i = .ok (some (call, j)) → i < j ∧ j ≤ tokens.length
  /-- A variable is read in one go, up to its closing symbol. -/
  variable_parts : ∀ i t, tokens[i]? = some t → variableAt symbols tokens i = (do
    let ((path, text), j) ← pathAt i tokens (i + 1)
    let (calls, k) ← filtersAt .varEnd unmatchedVariable i tokens j
    return ([.variable path calls (symbols.varStart ++ text ++ symbols.varEnd)], k + 1))
  variable_end : ∀ i nodes j, variableAt symbols tokens i = .ok (nodes, j) →
    Behind tokens .varEnd (i + 1) j
  /-- A group is read in one go, up to its closing symbol. -/
  group_parts : ∀ i t, tokens[i]? = some t → groupAt symbols tokens i = (do
    let (children, j) ← nodesAt symbols .body tokens (i + 1)
    let (calls, k) ← filtersAt .groupEnd unmatchedGroup i tokens j
    return ([.group (bodyOf children) calls], k + 1))
  group_end : ∀ i nodes j, groupAt symbols tokens i = .ok (nodes, j) →
    Behind tokens .groupEnd (i + 1) j

/-- The cursor is safe on every list of tokens, be it written by the tokenizer or not. -/
theorem cursorSafe (symbols : Symbols) (tokens : List Token) : CursorSafe symbols tokens where
  ends := parse_ends symbols tokens
  success _ := whole_of_parse
  failure stop h := by
    have hle := cursor_whole_le symbols tokens
    rw [h] at hle
    exact hle
  forward part _ hi := part.cursor_mem symbols hi
  nodes_loop _ i hscope := nodesAt_eq hscope i
  nodes_turn _ _ _ _ := lt_of_nodeTurn
  filters_loop _ _ opening i := filtersAt_eq opening i
  filters_turn _ _ _ _ := lt_of_callTurn
  variable_parts _ _ := variableAt_eq
  variable_end _ _ _ := behind_of_variableAt
  group_parts _ _ := groupAt_eq
  group_end _ _ _ := behind_of_groupAt

end Stencil.Parse

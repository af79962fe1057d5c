import Stencil.Proofs.Transitions

/-!
# Reading by constructs

The parser takes up one token after the other and keeps on a stack what is open. Read construct by
construct, it is a descent: a variable is a path, filter calls and a closing symbol
(`variableAt_eq`), a group is nodes, filter calls and a closing symbol (`groupAt_eq`), and nodes and
filter calls are loops with a turn for each of them (`nodesAt_eq`, `filtersAt_eq`). What makes the
two the same is that a run with a group open reads the body of that group as if it stood alone, then
its filter calls, and then goes on with what is around it (`Nests`).

All places are indices into one stream of tokens, from which every run starts anew, so that the
parts of a descent are put together without cutting the stream.
-/

namespace Stencil.Parse

open Text

/-- A fact about a place may be proved from the same fact about all later places of the stream. -/
theorem later_induction {P : Nat → Prop} (tokens : List Token)
    (h : ∀ i, (∀ j, i < j → j ≤ tokens.length → P j) → P i) (i : Nat) : P i := by
  induction hn : tokens.length - i using Nat.strongRecOn generalizing i with
  | ind n ih => exact h i fun j hij hj => ih (tokens.length - j) (by omega) j rfl

/-- Facts about the places of a stream, from its end on. -/
theorem index_induction {P : Nat → Prop} (tokens : List Token)
    (hend : ∀ i, tokens[i]? = none → P i)
    (hnext : ∀ i t, tokens[i]? = some t → P (i + 1) → P i) (i : Nat) : P i := by
  induction i using later_induction tokens with
  | h i ih =>
      cases ht : tokens[i]? with
      | none => exact hend i ht
      | some t =>
          have hi : i < tokens.length := (List.getElem?_eq_some_iff.mp ht).1
          exact hnext i t ht (ih (i + 1) (Nat.lt_succ_self i) hi)

theorem drop_of_getElem? {tokens : List Token} {i : Nat} {t : Token} (h : tokens[i]? = some t) :
    tokens.drop i = t :: tokens.drop (i + 1) := by
  obtain ⟨hi, rfl⟩ := List.getElem?_eq_some_iff.mp h
  exact List.drop_eq_getElem_cons hi

theorem drop_of_getElem?_none {tokens : List Token} {i : Nat} (h : tokens[i]? = none) :
    tokens.drop i = [] :=
  List.drop_eq_nil_of_le (List.getElem?_eq_none_iff.mp h)

/-- The cursor with which a reading ends, be it with a result or with a fault. -/
def cursorAfter {α : Type} : Except Stop (α × Nat) → Nat
  | .ok (_, i) => i
  | .error stop => stop.cursor

/-! ## Runs from a place on -/

/-- Reads calls from the token with index `i` on. -/
def Chain.runAt (closing : TokenKind) (unmatched : String) (tokens : List Token) (c : Chain)
    (i : Nat) : Except Stop (List Call × Nat) :=
  c.run closing unmatched i (tokens.drop i)

/-- Reads nodes from the token with index `i` on. -/
def State.runAt (symbols : Symbols) (scope : Scope) (tokens : List Token) (s : State) (i : Nat) :
    Except Stop (List Node × Nat) :=
  s.run symbols scope i (tokens.drop i)

section

variable {symbols : Symbols} {scope : Scope} {tokens : List Token} {closing : TokenKind}
  {unmatched : String} {i j : Nat} {t : Token}

theorem Chain.runAt_none (c : Chain) (h : tokens[i]? = none) :
    c.runAt closing unmatched tokens i = .error (c.atEnd unmatched i) := by
  rw [runAt, drop_of_getElem?_none h, run]

theorem Chain.runAt_some (c : Chain) (h : tokens[i]? = some t) :
    c.runAt closing unmatched tokens i =
      match c.step closing i t with
      | .more c => c.runAt closing unmatched tokens (i + 1)
      | .close calls => .ok (calls, i)
      | .fail stop => .error stop := by
  rw [runAt, drop_of_getElem? h, run]
  rfl

theorem State.runAt_none (s : State) (h : tokens[i]? = none) :
    s.runAt symbols scope tokens i = s.finish i := by
  rw [runAt, drop_of_getElem?_none h, run]

theorem State.runAt_some (s : State) (h : tokens[i]? = some t) :
    s.runAt symbols scope tokens i =
      match s.step symbols scope i t with
      | .more s => s.runAt symbols scope tokens (i + 1)
      | .done => .ok (s.nodes.reverse, i)
      | .fail stop => .error stop := by
  rw [runAt, drop_of_getElem? h, run]
  rfl

/-! ## Cursors -/

/-- The cursor of a fault at the token with index `i`: before that token or behind it. -/
def Stop.At (i : Nat) (stop : Stop) : Prop :=
  stop.cursor = i ∨ stop.cursor = i + 1

theorem Chain.at_of_next {opening : Nat} {calls : List Call} {stop : Stop}
    (h : next closing i t opening calls = .fail stop) : stop.At i := by
  unfold next at h
  split at h
  · cases h
  · split at h
    · cases h
    · cases h
      exact .inl rfl

theorem Chain.at_of_step {c : Chain} {stop : Stop} (h : c.step closing i t = .fail stop) :
    stop.At i := by
  unfold step at h
  split at h
  · exact at_of_next h
  · split at h
    · cases h
      exact .inr rfl
    · split at h
      · cases h
        exact .inr rfl
      · cases h
  · split at h
    · cases h
    · exact at_of_next h
  · split at h
    · cases h
      exact .inr rfl
    · split at h
      · cases h
        exact .inr rfl
      · split at h
        · cases h
        · cases h
          exact .inr rfl

theorem State.at_of_readFilters {s : State} {c : Chain} {stop : Stop}
    (h : s.readFilters i t c = .fail stop) : stop.At i := by
  unfold readFilters at h
  split at h
  · cases h
  · cases h
  · next hstep =>
      cases h
      exact Chain.at_of_step hstep

theorem State.at_of_readNode {s : State} {stop : Stop} (h : s.readNode scope i t = .fail stop) :
    stop.At i := by
  unfold readNode at h
  split at h
  · cases h
  · split at h
    · cases h
    · cases h
    · cases h
    · split at h
      · cases h
      · exact at_of_readFilters h
    · split at h
      · cases h
      · exact at_of_readFilters h
    · split at h
      · cases h
      · cases h
        exact .inl rfl
    · split at h
      · cases h
      · cases h
        exact .inl rfl

/-- Where a token is refused, the cursor stands before it or behind it. -/
theorem State.at_of_step {s : State} {stop : Stop} (h : s.step symbols scope i t = .fail stop) :
    stop.At i := by
  unfold step at h
  split at h
  · exact at_of_readNode h
  · unfold readPath at h
    split at h
    · cases h
      exact .inr rfl
    · simp only at h
      split at h
      · cases h
        exact .inr rfl
      · cases h
  · unfold readVariable at h
    split at h
    · cases h
    · cases h
    · next hstep =>
        cases h
        exact Chain.at_of_step hstep
  · exact at_of_readFilters h

theorem Chain.cursor_atEnd (c : Chain) : (c.atEnd unmatched i).cursor = i := by
  unfold atEnd
  split <;> rfl

theorem State.cursor_finish (s : State) : cursorAfter (s.finish i) = i := by
  unfold finish
  split
  · split <;> rfl
  · rfl
  · exact Chain.cursor_atEnd _
  · exact Chain.cursor_atEnd _

/-- The cursor ends where it started or later, and not beyond the last token. -/
def Forward {α : Type} (tokens : List Token) (i : Nat) (r : Except Stop (α × Nat)) : Prop :=
  i ≤ cursorAfter r ∧ (i ≤ tokens.length → cursorAfter r ≤ tokens.length)

theorem forward_of_at {α : Type} {stop : Stop} (ht : tokens[i]? = some t) (h : stop.At i) :
    Forward tokens i (.error stop : Except Stop (α × Nat)) := by
  have hi : i < tokens.length := (List.getElem?_eq_some_iff.mp ht).1
  unfold Stop.At at h
  simp only [Forward, cursorAfter]
  omega

theorem Forward.of_succ {α : Type} {r : Except Stop (α × Nat)} (ht : tokens[i]? = some t)
    (h : Forward tokens (i + 1) r) : Forward tokens i r := by
  have hi : i < tokens.length := (List.getElem?_eq_some_iff.mp ht).1
  exact ⟨Nat.le_of_succ_le h.1, fun _ => h.2 hi⟩

theorem Chain.forward_runAt (c : Chain) (i : Nat) :
    Forward tokens i (c.runAt closing unmatched tokens i) := by
  induction i using index_induction tokens generalizing c with
  | hend i h =>
      rw [c.runAt_none h, Forward, cursorAfter, c.cursor_atEnd]
      exact ⟨Nat.le_refl i, id⟩
  | hnext i t ht ih =>
      rw [c.runAt_some ht]
      split
      · exact (ih _).of_succ ht
      · exact ⟨Nat.le_refl i, id⟩
      · next hstep => exact forward_of_at ht (at_of_step hstep)

theorem State.forward_runAt (s : State) (i : Nat) :
    Forward tokens i (s.runAt symbols scope tokens i) := by
  induction i using index_induction tokens generalizing s with
  | hend i h =>
      rw [s.runAt_none h, Forward, s.cursor_finish]
      exact ⟨Nat.le_refl i, id⟩
  | hnext i t ht ih =>
      rw [s.runAt_some ht]
      split
      · exact (ih _).of_succ ht
      · exact ⟨Nat.le_refl i, id⟩
      · next hstep => exact forward_of_at ht (at_of_step hstep)

/-- A chain ends in front of a closing symbol. -/
theorem Chain.closing_of_runAt {c : Chain} {calls : List Call} {k : Nat}
    (h : c.runAt closing unmatched tokens i = .ok (calls, k)) :
    ∃ t, tokens[k]? = some t ∧ t.kind = closing := by
  induction i using index_induction tokens generalizing c with
  | hend i hnone =>
      rw [c.runAt_none hnone] at h
      cases h
  | hnext i t ht ih =>
      rw [c.runAt_some ht] at h
      have hmeaning := c.step_meaning closing i t
      generalize c.step closing i t = outcome at hmeaning h
      cases outcome with
      | more c' => exact ih h
      | close calls' =>
          cases h
          exact ⟨t, ht, hmeaning.2.1⟩
      | fail stop => cases h

/-! ## Filter calls -/

/-- Reads the parameter of a call: the literal with index `i`. -/
def valueAt (opening : Nat) (name : String) (tokens : List Token) (i : Nat) :
    Except Stop (Call × Nat) := do
  let (t, j) ← literalAt tokens i
  match strip t.text.toList with
  | [] => .error (malformed .missingParameter opening (j + 1) j)
  | _ =>
    match Param.ofText t.text with
    | .ok param => .ok (⟨name, some param⟩, j)
    | .error why => .error (malformed (.badParameter why) opening j j)

/-- Reads a call, behind its symbol: a name, and the parameter if the symbol of one follows. -/
def callAt (opening : Nat) (tokens : List Token) (i : Nat) : Except Stop (Call × Nat) := do
  let (t, j) ← literalAt tokens i
  match strip t.text.toList with
  | [] => .error (malformed .missingFilterName opening (j + 1) j)
  | name =>
    if tokens[j]?.any (·.kind = .param) then valueAt opening (String.ofList name) tokens (j + 1)
    else .ok (⟨String.ofList name, none⟩, j)

/-- One turn of the loop over the calls of a construct: it reads a call, or leaves the loop. -/
def callTurn (opening : Nat) (tokens : List Token) (i : Nat) :
    Except Stop (Option (Call × Nat)) :=
  if tokens[i]?.any (·.kind = .filter) then (callAt opening tokens (i + 1)).map some else .ok none

/-- Behind its calls a construct has its closing symbol. -/
def closingAt (closing : TokenKind) (unmatched : String) (opening : Nat) (tokens : List Token)
    (i : Nat) : Except Stop Unit :=
  match tokens[i]? with
  | none => .error ⟨.malformed (.unmatched unmatched) ⟨opening, none⟩, i⟩
  | some t =>
    if t.kind = closing then .ok ()
    else .error (malformed (.unexpected t.kind t.position) opening (i + 1) i)

namespace Chain

/-- The chain with some calls made before its own. -/
def behind (before : List Call) (c : Chain) : Chain :=
  { c with calls := c.calls ++ before }

def Step.behind (before : List Call) : Step → Step
  | .more c => .more (c.behind before)
  | .close calls => .close (before.reverse ++ calls)
  | .fail stop => .fail stop

theorem next_behind (before : List Call) (opening : Nat) (calls : List Call) :
    next closing i t opening (calls ++ before)
      = (next closing i t opening calls).behind before := by
  unfold next
  split
  · rfl
  · split
    · rw [List.reverse_append]
      rfl
    · rfl

theorem step_behind (before : List Call) (c : Chain) :
    (c.behind before).step closing i t = (c.step closing i t).behind before := by
  cases hc : c.stage with
  | rest =>
      simp only [step, behind, hc]
      exact next_behind before c.opening c.calls
  | name =>
      simp only [step, behind, hc]
      split
      · rfl
      · split <;> rfl
  | named name =>
      simp only [step, behind, hc]
      split
      · rfl
      · exact next_behind before c.opening (⟨name, none⟩ :: c.calls)
  | value name =>
      simp only [step, behind, hc]
      split
      · rfl
      · split
        · rfl
        · split <;> rfl

/-- The calls that a chain has already made are in front of those that it reads. -/
theorem runAt_behind (before : List Call) (c : Chain) (i : Nat) :
    (c.behind before).runAt closing unmatched tokens i
      = (c.runAt closing unmatched tokens i).map
        fun (calls, k) => (before.reverse ++ calls, k) := by
  induction i using index_induction tokens generalizing c with
  | hend i h =>
      rw [runAt_none _ h, runAt_none _ h]
      rfl
  | hnext i t ht ih =>
      rw [runAt_some _ ht, runAt_some _ ht, step_behind]
      cases c.step closing i t with
      | more c' => exact ih c'
      | close calls => rfl
      | fail stop => rfl

variable {opening : Nat} {calls : List Call} {name : String}

theorem runAt_value (i : Nat) :
    runAt closing unmatched tokens ⟨opening, calls, .value name⟩ i = (do
      let (call, j) ← valueAt opening name tokens i
      runAt closing unmatched tokens ⟨opening, call :: calls, .rest⟩ j) := by
  unfold valueAt literalAt
  cases ht : tokens[i]? with
  | none =>
      rw [runAt_none _ ht]
      rfl
  | some t =>
      rw [runAt_some _ ht]
      simp only [step]
      by_cases hk : t.kind = .literal
      · simp only [hk, ne_eq, not_true_eq_false, if_false, if_true]
        cases hs : strip t.text.toList with
        | nil => simp [hs, bind, Except.bind]
        | cons c cs => cases hp : Param.ofText t.text <;> simp [hs, hp, bind, Except.bind]
      · simp [hk, bind, Except.bind]

theorem runAt_named (i : Nat) :
    runAt closing unmatched tokens ⟨opening, calls, .named name⟩ i =
      if tokens[i]?.any (·.kind = .param) then do
        let (call, j) ← valueAt opening name tokens (i + 1)
        runAt closing unmatched tokens ⟨opening, call :: calls, .rest⟩ j
      else runAt closing unmatched tokens ⟨opening, ⟨name, none⟩ :: calls, .rest⟩ i := by
  cases ht : tokens[i]? with
  | none =>
      rw [runAt_none _ ht, runAt_none _ ht]
      rfl
  | some t =>
      rw [runAt_some _ ht, runAt_some _ ht, ← runAt_value]
      by_cases hk : t.kind = .param <;> simp [step, hk]

theorem runAt_name (i : Nat) :
    runAt closing unmatched tokens ⟨opening, calls, .name⟩ i = (do
      let (call, j) ← callAt opening tokens i
      runAt closing unmatched tokens ⟨opening, call :: calls, .rest⟩ j) := by
  unfold callAt literalAt
  cases ht : tokens[i]? with
  | none =>
      rw [runAt_none _ ht]
      rfl
  | some t =>
      rw [runAt_some _ ht]
      simp only [step]
      by_cases hk : t.kind = .literal
      · simp only [hk, ne_eq, not_true_eq_false, if_false, if_true]
        cases hs : strip t.text.toList with
        | nil => simp [hs, bind, Except.bind]
        | cons c cs =>
            simp only [hs, bind, Except.bind, runAt_named]
            split <;> rfl
      · simp [hk, bind, Except.bind]

/-- A chain at rest is in front of a turn of the loop, or of the closing symbol. -/
theorem runAt_rest (i : Nat) :
    runAt closing unmatched tokens { opening } i = (do
      match ← callTurn opening tokens i with
      | some (call, j) =>
        let (calls, k) ← runAt closing unmatched tokens { opening } j
        return (call :: calls, k)
      | none =>
        closingAt closing unmatched opening tokens i
        return ([], i)) := by
  unfold callTurn closingAt
  cases ht : tokens[i]? with
  | none =>
      rw [runAt_none _ ht]
      rfl
  | some t =>
      rw [runAt_some _ ht]
      by_cases hk : t.kind = .filter
      · simp only [step, next, hk, if_true, Option.any_some, decide_true]
        rw [runAt_name]
        cases callAt opening tokens (i + 1) with
        | error stop => rfl
        | ok r => exact runAt_behind [r.1] { opening } r.2
      · simp only [step, next, hk, if_false, Option.any_some, decide_false, Bool.false_eq_true]
        by_cases hclose : t.kind = closing
        · rw [if_pos hclose, if_pos hclose]
          rfl
        · rw [if_neg hclose, if_neg hclose]
          rfl

end Chain

/-- Filter calls are read in turns, up to the closing symbol. -/
theorem filtersAt_eq (opening i : Nat) :
    filtersAt closing unmatched opening tokens i = (do
      match ← callTurn opening tokens i with
      | some (call, j) =>
        let (calls, k) ← filtersAt closing unmatched opening tokens j
        return (call :: calls, k)
      | none =>
        closingAt closing unmatched opening tokens i
        return ([], i)) :=
  Chain.runAt_rest i

/-! ## Variables -/

/-- Reads the path of a variable: the literal with index `i`. -/
def pathAt (opening : Nat) (tokens : List Token) (i : Nat) :
    Except Stop ((List String × String) × Nat) := do
  let (t, j) ← literalAt tokens i
  let segments := segmentsOf t.text.toList
  if segments.any List.isEmpty then
    let cause := if (strip t.text.toList).isEmpty then .emptyPath else .emptyPathSegment
    .error (malformed cause opening (j + 1) j)
  else .ok ((segments.map String.ofList, t.text), j)

namespace State

variable {outer : List OpenGroup} {nodes : List Node}

theorem runAt_path (opening i : Nat) :
    runAt symbols scope tokens ⟨outer, nodes, .path opening⟩ i = (do
      let ((path, text), j) ← pathAt opening tokens i
      runAt symbols scope tokens ⟨outer, nodes, .variable path text { opening }⟩ j) := by
  unfold pathAt literalAt
  cases ht : tokens[i]? with
  | none =>
      rw [runAt_none _ ht]
      rfl
  | some t =>
      rw [runAt_some _ ht]
      simp only [step, readPath]
      by_cases hk : t.kind = .literal
      · simp only [hk, ne_eq, not_true_eq_false, if_false, if_true, bind, Except.bind]
        by_cases hany : (segmentsOf t.text.toList).any List.isEmpty
        · rw [if_pos hany, if_pos hany]
        · rw [if_neg hany, if_neg hany]
      · simp [hk, bind, Except.bind]

/-- While a state reads a chain of calls, it runs as the chain does, up to the closing symbol. -/
theorem runAt_chain (state : Chain → State) (closed : List Call → State)
    (hstep : ∀ c i t, (state c).step symbols scope i t =
      match c.step closing i t with
      | .more c => .more (state c)
      | .close calls => .more (closed calls)
      | .fail stop => .fail stop)
    (hfinish : ∀ c i, (state c).finish i = .error (c.atEnd unmatched i)) (c : Chain) (i : Nat) :
    (state c).runAt symbols scope tokens i = (do
      let (calls, k) ← c.runAt closing unmatched tokens i
      (closed calls).runAt symbols scope tokens (k + 1)) := by
  induction i using index_induction tokens generalizing c with
  | hend i h =>
      rw [runAt_none _ h, c.runAt_none h, hfinish]
      rfl
  | hnext i t ht ih =>
      rw [runAt_some _ ht, c.runAt_some ht, hstep]
      cases c.step closing i t with
      | more c' => exact ih c'
      | close calls => rfl
      | fail stop => rfl

/-- The filter calls of a variable, up to its end. -/
theorem runAt_variable (path : List String) (text : String) (opening i : Nat) :
    runAt symbols scope tokens ⟨outer, nodes, .variable path text { opening }⟩ i = (do
      let (calls, k) ← filtersAt .varEnd unmatchedVariable opening tokens i
      let node := Node.variable path calls (symbols.varStart ++ text ++ symbols.varEnd)
      runAt symbols scope tokens ⟨outer, node :: nodes, .nodes⟩ (k + 1)) := by
  refine runAt_chain (fun c => ⟨outer, nodes, .variable path text c⟩)
    (fun calls => ⟨outer,
      .variable path calls (symbols.varStart ++ text ++ symbols.varEnd) :: nodes, .nodes⟩)
    (fun c i t => ?_) (fun _ _ => rfl) _ i
  cases hstep : c.step .varEnd i t <;> simp [step, readVariable, hstep]

/-- The filter calls of the innermost group, up to its end. -/
theorem runAt_filters (s : State) (opening i : Nat) :
    runAt symbols scope tokens { s with phase := .filters { opening } } i = (do
      let (calls, k) ← filtersAt .groupEnd unmatchedGroup opening tokens i
      (s.closeGroup calls).runAt symbols scope tokens (k + 1)) := by
  refine runAt_chain (fun c => { s with phase := .filters c }) (fun calls => s.closeGroup calls)
    (fun c i t => ?_) (fun _ _ => rfl) _ i
  cases hstep : c.step .groupEnd i t <;> simp [step, readFilters, closeGroup, hstep]

/-- A single construct is read when there is one node. -/
theorem runAt_construct (nodes : List Node) (i : Nat) :
    runAt symbols .construct tokens { nodes } i = .ok (nodes.reverse, i) := by
  cases ht : tokens[i]? with
  | none => rw [runAt_none _ ht]; rfl
  | some t => rw [runAt_some _ ht]; rfl

end State

theorem constructAt_eq (s : State) (ht : tokens[i]? = some t) :
    constructAt symbols tokens i s = s.runAt symbols .construct tokens (i + 1) := by
  rw [constructAt, drop_of_getElem? ht]
  rfl

theorem forward_constructAt (s : State) (ht : tokens[i]? = some t) :
    Forward tokens (i + 1) (constructAt symbols tokens i s) := by
  rw [constructAt_eq s ht]
  exact s.forward_runAt (i + 1)

/-- A variable is a path, filter calls and its closing symbol. -/
theorem variableAt_eq (ht : tokens[i]? = some t) :
    variableAt symbols tokens i = (do
      let ((path, text), j) ← pathAt i tokens (i + 1)
      let (calls, k) ← filtersAt .varEnd unmatchedVariable i tokens j
      return ([.variable path calls (symbols.varStart ++ text ++ symbols.varEnd)], k + 1)) := by
  rw [variableAt, constructAt_eq _ ht, State.runAt_path]
  simp only [State.runAt_variable, State.runAt_construct]
  rfl

/-! ## Nodes -/

/-- One turn of the loop over nodes: it reads the nodes that a token starts, or leaves the loop at a
token that starts none. -/
def nodeTurn (symbols : Symbols) (scope : Scope) (tokens : List Token) (i : Nat) :
    Except Stop (Option (List Node × Nat)) :=
  match tokens[i]? with
  | none => .ok none
  | some t =>
    match t.kind with
    | .literal => .ok (some (literalNodes t.text, i + 1))
    | .varStart => (variableAt symbols tokens i).map some
    | .groupStart => (groupAt symbols tokens i).map some
    | .filter | .groupEnd => .ok none
    | .varEnd | .param =>
      if scope = .template then .ok none
      else .error (malformed (.unexpectedInGroup t.kind t.position) (i - 1) (i + 2) i)

/-- A turn that does not leave the loop takes up a token or more. -/
theorem lt_of_nodeTurn {nodes : List Node}
    (h : nodeTurn symbols scope tokens i = .ok (some (nodes, j))) : i < j ∧ j ≤ tokens.length := by
  unfold nodeTurn at h
  cases ht : tokens[i]? with
  | none => rw [ht] at h; cases h
  | some t =>
      have hi : i < tokens.length := (List.getElem?_eq_some_iff.mp ht).1
      have hconstruct : ∀ s : State, (constructAt symbols tokens i s).map some
          = .ok (some (nodes, j)) → i < j ∧ j ≤ tokens.length := by
        intro s hs
        have hforward : Forward tokens (i + 1) (constructAt symbols tokens i s) :=
          forward_constructAt s ht
        cases hr : constructAt symbols tokens i s with
        | error stop => rw [hr] at hs; cases hs
        | ok r =>
            rw [hr] at hs hforward
            cases hs
            exact ⟨hforward.1, hforward.2 hi⟩
      rw [ht] at h
      simp only at h
      split at h
      · cases h
        exact ⟨Nat.lt_succ_self i, hi⟩
      · exact hconstruct _ h
      · exact hconstruct _ h
      · cases h
      · cases h
      · split at h <;> cases h
      · split at h <;> cases h

/-- With a group open, a run reads the body of that group as if it stood alone, then the filter
calls of the group, and goes on behind its end. -/
def Nests (symbols : Symbols) (tokens : List Token) (i : Nat) : Prop :=
  ∀ (scope : Scope) (g : OpenGroup) (outer : List OpenGroup) (nodes : List Node),
    State.runAt symbols scope tokens ⟨g :: outer, nodes, .nodes⟩ i = (do
      let (children, j) ← nodesAt symbols .body tokens i
      let (calls, k) ← filtersAt .groupEnd unmatchedGroup g.opening tokens j
      let s : State := ⟨g :: outer, children.reverse ++ nodes, .nodes⟩
      (s.closeGroup calls).runAt symbols scope tokens (k + 1))

theorem Nests.groupAt_eq (h : Nests symbols tokens (i + 1)) (ht : tokens[i]? = some t) :
    groupAt symbols tokens i = (do
      let (children, j) ← nodesAt symbols .body tokens (i + 1)
      let (calls, k) ← filtersAt .groupEnd unmatchedGroup i tokens j
      return ([.group (bodyOf children) calls], k + 1)) := by
  rw [groupAt, constructAt_eq _ ht, h]
  simp only [State.closeGroup, State.runAt_construct, List.append_nil, List.reverse_reverse]
  rfl

namespace State

variable {outer : List OpenGroup} {nodes : List Node}

/-- Where the loop over nodes is left: at the top all is read, and in a group its filter calls
follow. -/
def leave (symbols : Symbols) (scope : Scope) (tokens : List Token) (i : Nat) (s : State) :
    Except Stop (List Node × Nat) :=
  match s.outer with
  | [] => .ok (s.nodes.reverse, i)
  | g :: _ => runAt symbols scope tokens { s with phase := .filters { opening := g.opening } } i

/-- What a run reads next: the body of a group if one is open. -/
def scopeIn (scope : Scope) (s : State) : Scope :=
  if s.outer.isEmpty then scope else .body

/-- Inside other nodes a variable is read as it is alone. -/
theorem runAt_variableAt (ht : tokens[i]? = some t) :
    runAt symbols scope tokens ⟨outer, nodes, .path i⟩ (i + 1) = (do
      let (read, j) ← variableAt symbols tokens i
      runAt symbols scope tokens ⟨outer, read.reverse ++ nodes, .nodes⟩ j) := by
  rw [runAt_path, variableAt_eq ht]
  cases pathAt i tokens (i + 1) with
  | error stop => rfl
  | ok r =>
      simp only [bind, Except.bind, runAt_variable]
      cases filtersAt .varEnd unmatchedVariable i tokens r.2 with
      | error stop => rfl
      | ok calls => rfl

/-- Inside other nodes a group is read as it is alone. -/
theorem runAt_groupAt (hnests : Nests symbols tokens (i + 1)) (ht : tokens[i]? = some t) :
    runAt symbols scope tokens { outer := ⟨i, nodes⟩ :: outer } (i + 1) = (do
      let (read, j) ← groupAt symbols tokens i
      runAt symbols scope tokens ⟨outer, read.reverse ++ nodes, .nodes⟩ j) := by
  rw [hnests, hnests.groupAt_eq ht]
  cases nodesAt symbols .body tokens (i + 1) with
  | error stop => rfl
  | ok r =>
      simp only [bind, Except.bind, closeGroup, List.append_nil, List.reverse_reverse]
      cases filtersAt .groupEnd unmatchedGroup i tokens r.2 with
      | error stop => rfl
      | ok calls => rfl

/-- Before a node, a run takes a turn of the loop over nodes. -/
theorem runAt_turn (s : State) (hphase : s.phase = .nodes) (hscope : s.scopeIn scope ≠ .construct)
    (hnests : i < tokens.length → Nests symbols tokens (i + 1)) :
    s.runAt symbols scope tokens i = (do
      match ← nodeTurn symbols (s.scopeIn scope) tokens i with
      | some (nodes, j) => (s.push nodes).runAt symbols scope tokens j
      | none => s.leave symbols scope tokens i) := by
  obtain ⟨outer, nodes, phase⟩ := s
  cases hphase
  have hgoes : (outer.isEmpty && decide (scope = .construct)) = false := by
    cases outer with
    | nil => simpa [scopeIn] using hscope
    | cons g outer => rfl
  unfold nodeTurn
  cases ht : tokens[i]? with
  | none =>
      rw [runAt_none _ ht]
      cases outer with
      | nil => rfl
      | cons g outer =>
          simp only [leave, bind, Except.bind]
          rw [runAt_none _ ht]
          rfl
  | some t =>
      have hi : i < tokens.length := (List.getElem?_eq_some_iff.mp ht).1
      rw [runAt_some _ ht]
      simp only [step, readNode, hgoes, Bool.false_eq_true, if_false]
      cases hk : t.kind with
      | literal => simp only [bind, Except.bind, push_literalNodes]
      | varStart =>
          simp only [runAt_variableAt ht]
          cases variableAt symbols tokens i <;> rfl
      | groupStart =>
          simp only [runAt_groupAt (hnests hi) ht]
          cases groupAt symbols tokens i <;> rfl
      | filter | groupEnd =>
          cases outer with
          | nil => rfl
          | cons g outer =>
              -- the loop is left, and the token is the first that the filters of the group read
              simp only [leave, bind, Except.bind]
              rw [runAt_some _ ht]
              rfl
      | varEnd | param =>
          cases outer with
          | nil =>
              by_cases htop : scope = .template
              · simp [scopeIn, leave, htop, bind, Except.bind]
              · simp [scopeIn, htop, bind, Except.bind]
          | cons g outer => rfl

theorem nodesAt_turn (hscope : scope ≠ .construct)
    (hnests : i < tokens.length → Nests symbols tokens (i + 1)) :
    nodesAt symbols scope tokens i = (do
      match ← nodeTurn symbols scope tokens i with
      | some (nodes, j) => runAt symbols scope tokens { nodes := nodes.reverse } j
      | none => return ([], i)) := by
  refine (runAt_turn {} rfl hscope hnests).trans ?_
  simp only [push, List.append_nil]
  rfl

/-- The nodes that a run has read at the top are in front of those that it reads. -/
theorem runAt_behind (hscope : scope ≠ .construct)
    (hnests : ∀ j, i < j → j ≤ tokens.length → Nests symbols tokens j) (nodes : List Node) :
    runAt symbols scope tokens { nodes } i
      = (nodesAt symbols scope tokens i).map fun (more, j) => (nodes.reverse ++ more, j) := by
  induction i using later_induction tokens generalizing nodes with
  | h i ih =>
      have hnext : i < tokens.length → Nests symbols tokens (i + 1) :=
        hnests (i + 1) (Nat.lt_succ_self i)
      rw [runAt_turn { nodes } rfl hscope hnext, nodesAt_turn hscope hnext]
      simp only [scopeIn, List.isEmpty_nil, if_true]
      cases hturn : nodeTurn symbols scope tokens i with
      | error stop => rfl
      | ok turn => cases turn with
        | none => simp [leave, bind, Except.bind, Except.map, pure, Except.pure]
        | some r =>
            have hj := lt_of_nodeTurn hturn
            have hlater : ∀ j, r.2 < j → j ≤ tokens.length → Nests symbols tokens j :=
              fun j h => hnests j (Nat.lt_trans hj.1 h)
            simp only [bind, Except.bind, push]
            rw [ih r.2 hj.1 hj.2 hlater, ih r.2 hj.1 hj.2 hlater]
            cases nodesAt symbols scope tokens r.2 <;> simp [Except.map]

end State

/-- Groups nest at every place. A turn takes the place ahead, and a group in it is read from a later
place on, so the induction is on what is left of the stream. -/
theorem nests (symbols : Symbols) (tokens : List Token) (i : Nat) : Nests symbols tokens i := by
  induction i using later_induction tokens with
  | h i ih =>
      intro scope g outer nodes
      have hnext : i < tokens.length → Nests symbols tokens (i + 1) :=
        ih (i + 1) (Nat.lt_succ_self i)
      have hbody : Scope.body ≠ .construct := by simp
      -- with the group open and in its body alone, the loop takes the same turn
      rw [State.runAt_turn ⟨g :: outer, nodes, .nodes⟩ rfl hbody hnext,
        State.nodesAt_turn hbody hnext]
      simp only [State.scopeIn, List.isEmpty_cons, Bool.false_eq_true, if_false]
      cases hturn : nodeTurn symbols .body tokens i with
      | error stop => rfl
      | ok turn => cases turn with
        | none => exact State.runAt_filters ⟨g :: outer, nodes, .nodes⟩ g.opening i
        | some r =>
            have hj := lt_of_nodeTurn hturn
            have hlater : ∀ j, r.2 < j → j ≤ tokens.length → Nests symbols tokens j :=
              fun j h => ih j (Nat.lt_trans hj.1 h)
            simp only [bind, Except.bind, State.push]
            rw [ih r.2 hj.1 hj.2, State.runAt_behind hbody hlater]
            cases nodesAt symbols .body tokens r.2 with
            | error stop => rfl
            | ok q => simp [Except.map, bind, Except.bind]

/-- A group is nodes, filter calls and its closing symbol. -/
theorem groupAt_eq (ht : tokens[i]? = some t) :
    groupAt symbols tokens i = (do
      let (children, j) ← nodesAt symbols .body tokens (i + 1)
      let (calls, k) ← filtersAt .groupEnd unmatchedGroup i tokens j
      return ([.group (bodyOf children) calls], k + 1)) :=
  (nests symbols tokens (i + 1)).groupAt_eq ht

/-- Nodes are read in turns, up to the end of the tokens or to a token that starts none. -/
theorem nodesAt_eq (hscope : scope ≠ .construct) (i : Nat) :
    nodesAt symbols scope tokens i = (do
      match ← nodeTurn symbols scope tokens i with
      | some (nodes, j) =>
        let (more, k) ← nodesAt symbols scope tokens j
        return (nodes ++ more, k)
      | none => return ([], i)) := by
  rw [State.nodesAt_turn hscope fun _ => nests symbols tokens (i + 1)]
  cases nodeTurn symbols scope tokens i with
  | error stop => rfl
  | ok turn => cases turn with
    | none => rfl
    | some r =>
        simp only [bind, Except.bind]
        rw [State.runAt_behind hscope (fun j _ _ => nests symbols tokens j), List.reverse_reverse]
        cases nodesAt symbols scope tokens r.2 <;> rfl

end

end Stencil.Parse

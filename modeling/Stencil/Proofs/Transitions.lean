import Stencil.Parse
import Stencil.Proofs.Alternation

/-!
# The transitions of the parser

What one token can do to the parser, said once: `Chain.Moves` and `State.Moves` have a constructor
for every way in which a token is taken up, and `State.moves_iff_step` shows that these are all the
ways. A token that is not taken up ends the reading, whatever comes after it (`whole_of_stop`).
`State.Reads` chains transitions; facts about whole streams are proved along it. `parse_cases` sums
up how a stream can end.
-/

namespace Stencil.Parse

open Text

/-! ## Chains of filter calls -/

namespace Chain

/-- No name and no value is due, so the chain may end. -/
def AtRest (c : Chain) : Prop :=
  c.stage = .rest ∨ ∃ name, c.stage = .named name

/-- The calls so far, in reverse, with the one that may yet get a parameter. -/
def made (c : Chain) : List Call :=
  match c.stage with
  | .named name => ⟨name, none⟩ :: c.calls
  | _ => c.calls

/-- A chain takes up a token. -/
inductive Moves (c : Chain) (t : Token) : Chain → Prop
  | filter (hc : c.AtRest) (ht : t.kind = .filter) :
      Moves c t { opening := c.opening, calls := c.made, stage := .name }
  | name (hc : c.stage = .name) (ht : t.kind = .literal) (hn : strip t.text.toList ≠ []) :
      Moves c t { c with stage := .named (String.ofList (strip t.text.toList)) }
  | param {name : String} (hc : c.stage = .named name) (ht : t.kind = .param) :
      Moves c t { c with stage := .value name }
  | value {name : String} {param : Param} (hc : c.stage = .value name) (ht : t.kind = .literal)
      (hp : Param.ofText t.text = .ok param) :
      Moves c t { c with calls := ⟨name, some param⟩ :: c.calls, stage := .rest }

end Chain

/-- The fault lies in a token, not in the end of the stream. -/
def Stop.OnToken (stop : Stop) : Prop :=
  ∃ cause span, stop.fault = .malformed cause span ∧ ∀ message, cause ≠ .unmatched message

theorem onToken_malformed {cause : ParseCause} {start stop cursor : Nat}
    (h : ∀ message, cause ≠ .unmatched message) : (malformed cause start stop cursor).OnToken :=
  ⟨cause, _, rfl, h⟩

theorem strip_ne_nil_of_param {text : String} {param : Param} (h : Param.ofText text = .ok param) :
    strip text.toList ≠ [] := by
  intro hs
  rw [Param.ofText, hs] at h
  cases h

namespace Chain

variable {closing : TokenKind} {i : Nat} {t : Token} {c c' : Chain}

/-- What an outcome tells about the chain and the token that led to it. -/
def Step.Meaning (closing : TokenKind) (t : Token) (c : Chain) : Step → Prop
  | .more c' => c.Moves t c'
  | .close calls => c.AtRest ∧ t.kind = closing ∧ calls = c.made.reverse
  | .fail stop => stop.OnToken

theorem next_meaning (hc : c.AtRest) :
    (next closing i t c.opening c.made).Meaning closing t c := by
  unfold next
  split
  · exact .filter hc ‹_›
  · split
    · exact ⟨hc, ‹_›, rfl⟩
    · exact onToken_malformed (by simp)

/-- A token moves the chain, closes it, or is where the fault lies. -/
theorem step_meaning (closing : TokenKind) (i : Nat) (t : Token) (c : Chain) :
    (c.step closing i t).Meaning closing t c := by
  cases hc : c.stage with
  | rest =>
      have hmade : c.made = c.calls := by rw [made, hc]
      rw [step, hc]
      exact hmade ▸ next_meaning (.inl hc)
  | name =>
      simp only [step, hc]
      split
      · exact onToken_malformed (by simp)
      · next ht =>
          split
          · exact onToken_malformed (by simp)
          · next hn => exact .name hc (by simpa using ht) hn
  | named name =>
      have hmade : c.made = ⟨name, none⟩ :: c.calls := by rw [made, hc]
      simp only [step, hc]
      split
      · exact .param hc ‹_›
      · exact hmade ▸ next_meaning (.inr ⟨name, hc⟩)
  | value name =>
      simp only [step, hc]
      split
      · exact onToken_malformed (by simp)
      · next ht =>
          split
          · exact onToken_malformed (by simp)
          · split
            · next hp => exact .value hc (by simpa using ht) hp
            · exact onToken_malformed (by simp)

theorem Moves.step_eq (closing : TokenKind) (i : Nat) (h : c.Moves t c') :
    c.step closing i t = .more c' := by
  cases h with
  | filter hc ht =>
      rcases hc with hc | ⟨name, hc⟩ <;> simp [step, hc, next, ht, made]
  | name hc ht hn =>
      cases hs : strip t.text.toList with
      | nil => exact absurd hs hn
      | cons a as => simp [step, hc, ht, hs]
  | param hc ht => simp [step, hc, ht]
  | value hc ht hp =>
      cases hs : strip t.text.toList with
      | nil => exact absurd hs (strip_ne_nil_of_param hp)
      | cons a as => simp [step, hc, ht, hs, hp]

theorem AtRest.step_closing (hc : c.AtRest) (ht : t.kind = closing) (hf : closing ≠ .filter)
    (hp : closing ≠ .param) (i : Nat) : c.step closing i t = .close c.made.reverse := by
  subst ht
  rcases hc with hc | ⟨name, hc⟩ <;> simp [step, hc, next, hf, hp, made]

/-- After a literal no other literal is due. -/
theorem Moves.atRest (h : c.Moves t c') (ht : t.kind = .literal) : c'.AtRest := by
  cases h with
  | filter _ hk => rw [ht] at hk; cases hk
  | name => exact .inr ⟨_, rfl⟩
  | param _ hk => rw [ht] at hk; cases hk
  | value => exact .inl rfl

/-! A chain takes up what its stage waits for. -/

theorem not_atRest_of_name (hc : c.stage = .name) : ¬c.AtRest := by
  rintro (h | ⟨_, h⟩) <;> cases hc.symm.trans h

theorem not_atRest_of_value {name : String} (hc : c.stage = .value name) : ¬c.AtRest := by
  rintro (h | ⟨_, h⟩) <;> cases hc.symm.trans h

theorem Moves.of_name {opening : Nat} {calls : List Call}
    (h : Moves ⟨opening, calls, .name⟩ t c') :
    t.kind = .literal ∧ strip t.text.toList ≠ []
      ∧ c' = ⟨opening, calls, .named (String.ofList (strip t.text.toList))⟩ := by
  cases h with
  | filter hc => exact absurd hc (not_atRest_of_name rfl)
  | name _ ht hn => exact ⟨ht, hn, rfl⟩
  | param hc => cases hc
  | value hc => cases hc

theorem Moves.of_value {opening : Nat} {calls : List Call} {name : String}
    (h : Moves ⟨opening, calls, .value name⟩ t c') :
    t.kind = .literal ∧ ∃ param, Param.ofText t.text = .ok param
      ∧ c' = ⟨opening, ⟨name, some param⟩ :: calls, .rest⟩ := by
  cases h with
  | filter hc => exact absurd hc (not_atRest_of_value rfl)
  | name hc => cases hc
  | param hc => cases hc
  | value hc ht hp => cases hc; exact ⟨ht, _, hp, rfl⟩

theorem Moves.of_atRest (h : c.Moves t c') (hc : c.AtRest) :
    (t.kind = .filter ∧ c' = ⟨c.opening, c.made, .name⟩)
      ∨ (t.kind = .param ∧ ∃ name, c.stage = .named name ∧ c' = { c with stage := .value name }) := by
  cases h with
  | filter _ ht => exact .inl ⟨ht, rfl⟩
  | name hstage => exact absurd hc (not_atRest_of_name hstage)
  | param hstage ht => exact .inr ⟨ht, _, hstage, rfl⟩
  | value hstage => exact absurd hc (not_atRest_of_value hstage)

/-- A chain takes up no symbol that opens or closes anything. -/
theorem Moves.kind (h : c.Moves t c') :
    t.kind = .filter ∨ t.kind = .literal ∨ t.kind = .param := by
  cases h with
  | filter _ ht => exact .inl ht
  | name _ ht => exact .inr (.inl ht)
  | param _ ht => exact .inr (.inr ht)
  | value _ ht => exact .inr (.inl ht)

end Chain

/-! ## The state of the parser -/

/-- The node of a text, unless it is empty. -/
def literalNodes (text : String) : List Node :=
  if text.isEmpty then [] else [.literal text]

/-- The message for a construct without an end, by the kind of its opening symbol. -/
def unmatchedMessage (kind : TokenKind) : String :=
  if kind = .varStart then unmatchedVariable else unmatchedGroup

theorem unmatchedMessage_mem (kind : TokenKind) :
    unmatchedMessage kind ∈ [unmatchedVariable, unmatchedGroup] := by
  unfold unmatchedMessage
  split <;> simp

namespace State

/-- More nodes after those of the innermost body. -/
def push (s : State) (nodes : List Node) : State :=
  { s with nodes := nodes.reverse ++ s.nodes }

@[simp] theorem push_phase (s : State) (nodes : List Node) : (s.push nodes).phase = s.phase := rfl

@[simp] theorem push_outer (s : State) (nodes : List Node) : (s.push nodes).outer = s.outer := rfl

theorem push_literalNodes (s : State) (text : String) :
    s.push (literalNodes text)
      = if text.isEmpty then s else { s with nodes := .literal text :: s.nodes } := by
  unfold literalNodes
  split <;> rfl

theorem push_push (s : State) (xs ys : List Node) : (s.push xs).push ys = s.push (xs ++ ys) := by
  simp [push]

/-- The filters of the innermost group, as far as they are read. Before any of them the chain is
empty, and nothing but a filter symbol or the end of the group leads into it. -/
def groupChain (s : State) : Option Chain :=
  match s.phase, s.outer with
  | .filters chain, _ => some chain
  | .nodes, g :: _ => some { opening := g.opening }
  | _, _ => none

def closeVariable (symbols : Symbols) (path : List String) (text : String) (calls : List Call)
    (s : State) : State :=
  { s with
    nodes := .variable path calls (symbols.varStart ++ text ++ symbols.varEnd) :: s.nodes
    phase := .nodes }

/-- The state takes up a token, which has index `i`. -/
inductive Moves (symbols : Symbols) (i : Nat) (t : Token) (s : State) : State → Prop
  | literal (hs : s.phase = .nodes) (ht : t.kind = .literal) :
      Moves symbols i t s (s.push (literalNodes t.text))
  | varStart (hs : s.phase = .nodes) (ht : t.kind = .varStart) :
      Moves symbols i t s { s with phase := .path i }
  | path {opening : Nat} (hs : s.phase = .path opening) (ht : t.kind = .literal)
      (hp : ∀ segment ∈ segmentsOf t.text.toList, segment ≠ []) :
      Moves symbols i t s { s with
        phase := .variable ((segmentsOf t.text.toList).map String.ofList) t.text { opening } }
  | variable {path : List String} {text : String} {c c' : Chain}
      (hs : s.phase = .variable path text c) (hc : c.Moves t c') :
      Moves symbols i t s { s with phase := .variable path text c' }
  | varEnd {path : List String} {text : String} {c : Chain} (hs : s.phase = .variable path text c)
      (hc : c.AtRest) (ht : t.kind = .varEnd) :
      Moves symbols i t s (s.closeVariable symbols path text c.made.reverse)
  | groupStart (hs : s.phase = .nodes) (ht : t.kind = .groupStart) :
      Moves symbols i t s { outer := ⟨i, s.nodes⟩ :: s.outer }
  | filters {c c' : Chain} (hs : s.groupChain = some c) (hc : c.Moves t c') :
      Moves symbols i t s { s with phase := .filters c' }
  | groupEnd {c : Chain} (hs : s.groupChain = some c) (hc : c.AtRest) (ht : t.kind = .groupEnd) :
      Moves symbols i t s (s.closeGroup c.made.reverse)

variable {symbols : Symbols} {i : Nat} {t : Token} {s s' : State}

/-- What an outcome tells about the state and the token that led to it. -/
def Step.Meaning (symbols : Symbols) (i : Nat) (t : Token) (s : State) : Step → Prop
  | .more s' => s.Moves symbols i t s'
  | .done => s.phase = .nodes ∧ s.outer = []
  | .fail stop => stop.OnToken

theorem readPath_meaning {opening : Nat} (hs : s.phase = .path opening) :
    (s.readPath i t opening).Meaning symbols i t s := by
  unfold readPath
  split
  · exact onToken_malformed (by simp)
  · next ht =>
      simp only
      split
      · split <;> exact onToken_malformed (by simp)
      · next hp =>
          refine .path hs (by simpa using ht) fun segment hmem hnil => hp ?_
          exact List.any_eq_true.mpr ⟨segment, hmem, by simp [hnil]⟩

theorem readVariable_meaning {path : List String} {text : String} {c : Chain}
    (hs : s.phase = .variable path text c) :
    (s.readVariable symbols i t path text c).Meaning symbols i t s := by
  have hmeaning := c.step_meaning .varEnd i t
  rw [readVariable]
  generalize c.step .varEnd i t = outcome at hmeaning ⊢
  cases outcome with
  | more c' => exact .variable hs hmeaning
  | close calls =>
      obtain ⟨hc, ht, rfl⟩ := hmeaning
      exact .varEnd hs hc ht
  | fail stop => exact hmeaning

theorem readFilters_meaning {c : Chain} (hs : s.groupChain = some c) :
    (s.readFilters i t c).Meaning symbols i t s := by
  have hmeaning := c.step_meaning .groupEnd i t
  rw [readFilters]
  generalize c.step .groupEnd i t = outcome at hmeaning ⊢
  cases outcome with
  | more c' => exact .filters hs hmeaning
  | close calls =>
      obtain ⟨hc, ht, rfl⟩ := hmeaning
      exact .groupEnd hs hc ht
  | fail stop => exact hmeaning

theorem readNode_meaning (hs : s.phase = .nodes) :
    (s.readNode .template i t).Meaning symbols i t s := by
  simp only [readNode, reduceCtorEq, decide_false, Bool.and_false, Bool.false_eq_true, if_false,
    decide_true, Bool.and_true]
  cases ht : t.kind with
  | literal => exact push_literalNodes s t.text ▸ Moves.literal hs ht
  | varStart => exact .varStart hs ht
  | groupStart => cases s; cases hs; exact .groupStart rfl ht
  | filter | groupEnd => cases ho : s.outer with
    | nil => exact ⟨hs, ho⟩
    | cons g outer => exact readFilters_meaning (by rw [groupChain, hs, ho])
  | varEnd | param =>
      simp only
      split
      · next ho => exact ⟨hs, by simpa using ho⟩
      · exact onToken_malformed (by simp)

/-- A token is taken up, belongs to nothing at the top level, or is where the fault lies. -/
theorem step_meaning (symbols : Symbols) (i : Nat) (t : Token) (s : State) :
    (s.step symbols .template i t).Meaning symbols i t s := by
  unfold step
  split
  · exact readNode_meaning ‹_›
  · exact readPath_meaning ‹_›
  · exact readVariable_meaning ‹_›
  · next hs => exact readFilters_meaning (by simp [groupChain, hs])

theorem filter_of_groupChain {c c' : Chain} (hs : s.groupChain = some c) (hc : c.Moves t c') :
    s.phase = .filters c ∨ t.kind = .filter := by
  unfold groupChain at hs
  split at hs
  · next hphase => cases hs; exact .inl hphase
  · cases hs
    cases hc with
    | filter _ ht => exact .inr ht
    | name hstage => cases hstage
    | param hstage => cases hstage
    | value hstage => cases hstage
  · cases hs

/-- The chain of the innermost group reads the token, even if it is the first of its filters. -/
theorem step_of_groupChain {c : Chain} (hs : s.groupChain = some c)
    (ht : s.phase = .filters c ∨ t.kind = .filter ∨ t.kind = .groupEnd) :
    s.step symbols .template i t = s.readFilters i t c := by
  unfold groupChain at hs
  split at hs
  · next hphase => cases hs; simp [step, hphase]
  · next g outer hphase houter =>
      cases hs
      rcases ht with h | h | h
      · rw [hphase] at h; cases h
      · simp [step, hphase, readNode, h, houter]
      · simp [step, hphase, readNode, h, houter]
  · cases hs

theorem Moves.step_eq (h : s.Moves symbols i t s') :
    s.step symbols .template i t = .more s' := by
  cases h with
  | literal hs ht =>
      rw [push_literalNodes]
      simp [step, hs, readNode, ht]
  | varStart hs ht => simp [step, hs, readNode, ht]
  | groupStart hs ht => simp [step, hs, readNode, ht]
  | path hs ht hp =>
      have hany : ((segmentsOf t.text.toList).any List.isEmpty) = false := by
        simpa [List.any_eq_false] using hp
      simp [step, hs, readPath, ht, hany]
  | «variable» hs hc => simp [step, hs, readVariable, hc.step_eq]
  | varEnd hs hc ht =>
      simp [step, hs, readVariable, hc.step_closing ht, closeVariable]
  | filters hs hc =>
      have ht := filter_of_groupChain hs hc
      rw [step_of_groupChain hs (ht.imp_right .inl), readFilters, hc.step_eq]
  | groupEnd hs hc ht =>
      rw [step_of_groupChain hs (.inr (.inr ht)), readFilters, hc.step_closing ht (by simp) (by simp)]

theorem moves_iff_step :
    s.Moves symbols i t s' ↔ s.step symbols .template i t = .more s' := by
  refine ⟨Moves.step_eq, fun h => ?_⟩
  have hmeaning := step_meaning symbols i t s
  rw [h] at hmeaning
  exact hmeaning

/-- After the opening symbol of a variable comes its path. -/
theorem Moves.of_path {opening : Nat} (h : s.Moves symbols i t s') (hs : s.phase = .path opening) :
    t.kind = .literal ∧ (∀ segment ∈ segmentsOf t.text.toList, segment ≠ [])
      ∧ s' = { s with
        phase := .variable ((segmentsOf t.text.toList).map String.ofList) t.text { opening } } := by
  have hchain : s.groupChain = none := by rw [groupChain, hs]
  cases h with
  | path hs' ht hp => cases hs.symm.trans hs'; exact ⟨ht, hp, rfl⟩
  | literal hs' => cases hs.symm.trans hs'
  | varStart hs' => cases hs.symm.trans hs'
  | «variable» hs' => cases hs.symm.trans hs'
  | varEnd hs' => cases hs.symm.trans hs'
  | groupStart hs' => cases hs.symm.trans hs'
  | filters hs' => cases hchain.symm.trans hs'
  | groupEnd hs' => cases hchain.symm.trans hs'

/-- What is no node leads into the filters of the innermost group, or out of the group. -/
theorem Moves.of_nodes (h : s.Moves symbols i t s') (hs : s.phase = .nodes)
    (hl : t.kind ≠ .literal) (hv : t.kind ≠ .varStart) (hg : t.kind ≠ .groupStart) :
    s.groupChain.isSome ∧ (t.kind = .filter ∨ t.kind = .groupEnd) := by
  cases h with
  | literal _ ht => exact absurd ht hl
  | varStart _ ht => exact absurd ht hv
  | groupStart _ ht => exact absurd ht hg
  | path hs' => cases hs.symm.trans hs'
  | «variable» hs' => cases hs.symm.trans hs'
  | varEnd hs' => cases hs.symm.trans hs'
  | filters hs' hc =>
      rcases filter_of_groupChain hs' hc with h | h
      · cases hs.symm.trans h
      · exact ⟨by rw [hs']; rfl, .inl h⟩
  | groupEnd hs' _ ht => exact ⟨by rw [hs']; rfl, .inr ht⟩

/-! ## Reading some tokens -/

/-- The tokens `ts`, the first of which has index `i`, take the state `s` to another one. -/
inductive Reads (symbols : Symbols) : State → Nat → List Token → State → Prop
  | nil {s : State} {i : Nat} : Reads symbols s i [] s
  | cons {s m s' : State} {i : Nat} {t : Token} {ts : List Token} (h : s.Moves symbols i t m)
      (hr : Reads symbols m (i + 1) ts s') : Reads symbols s i (t :: ts) s'

variable {m : State} {ts us : List Token}

theorem Moves.unique (h : s.Moves symbols i t m) (h' : s.Moves symbols i t s') : m = s' := by
  have heq := h.step_eq.symm.trans h'.step_eq
  cases heq
  rfl

theorem Reads.single (h : s.Moves symbols i t s') : Reads symbols s i [t] s' :=
  .cons h .nil

/-- The state after some tokens decides about the ones after them. -/
theorem Reads.append_iff (h : Reads symbols s i ts m) :
    Reads symbols s i (ts ++ us) s' ↔ Reads symbols m (i + ts.length) us s' := by
  induction h with
  | nil => rfl
  | @cons s m₁ m i t ts hmove _ ih =>
      rw [List.length_cons, show i + (ts.length + 1) = i + 1 + ts.length by omega, ← ih]
      constructor
      · intro hr
        cases hr with
        | cons h' hr => exact hmove.unique h' ▸ hr
      · exact .cons hmove

theorem Reads.append (h : Reads symbols s i ts m)
    (h' : Reads symbols m (i + ts.length) us s') : Reads symbols s i (ts ++ us) s' :=
  h.append_iff.mpr h'

theorem Reads.run_eq (h : Reads symbols s i ts m) (us : List Token) :
    run symbols .template s i (ts ++ us) = run symbols .template m (i + ts.length) us := by
  induction h with
  | nil => rfl
  | @cons s m₁ m i t ts hmove _ ih =>
      rw [List.cons_append, run, hmove.step_eq, List.length_cons,
        show i + (ts.length + 1) = i + 1 + ts.length by omega]
      exact ih

/-- All tokens are read, or there is a first one that is not taken up. -/
theorem reads_or_stuck (symbols : Symbols) (s : State) (i : Nat) (ts : List Token) :
    (∃ m, Reads symbols s i ts m)
      ∨ ∃ pre t post m, ts = pre ++ t :: post ∧ Reads symbols s i pre m
          ∧ ∀ s', ¬m.Moves symbols (i + pre.length) t s' := by
  induction ts generalizing s i with
  | nil => exact .inl ⟨s, .nil⟩
  | cons t ts ih =>
      by_cases hmove : ∃ m, s.Moves symbols i t m
      · obtain ⟨m, hmove⟩ := hmove
        rcases ih m (i + 1) with ⟨s', hr⟩ | ⟨pre, t', post, s', rfl, hr, hstuck⟩
        · exact .inl ⟨s', .cons hmove hr⟩
        · refine .inr ⟨t :: pre, t', post, s', rfl, .cons hmove hr, ?_⟩
          rw [List.length_cons, show i + (pre.length + 1) = i + 1 + pre.length by omega]
          exact hstuck
      · exact .inr ⟨[], t, ts, s, rfl, .nil, fun s' h => hmove ⟨s', h⟩⟩

/-! ## Where a stream may end -/

/-- No literal is due. -/
def AtRest (s : State) : Prop :=
  match s.phase with
  | .nodes => True
  | .path _ => False
  | .variable _ _ chain => chain.AtRest
  | .filters chain => chain.AtRest

/-- All that was opened is closed. -/
def Complete (s : State) : Prop :=
  s.phase = .nodes ∧ s.outer = []

@[simp] theorem closeGroup_phase (calls : List Call) (s : State) :
    (s.closeGroup calls).phase = .nodes := by
  unfold closeGroup
  split <;> rfl

@[simp] theorem closeGroup_outer (calls : List Call) (s : State) :
    (s.closeGroup calls).outer = s.outer.tail := by
  unfold closeGroup
  split <;> next h => rw [h]; rfl

/-- After a literal no other literal is due. -/
theorem Moves.atRest (h : s.Moves symbols i t s') (ht : t.kind = .literal) : s'.AtRest := by
  cases h with
  | literal hs => simp [AtRest, hs]
  | varStart _ hk => rw [ht] at hk; cases hk
  | path => exact .inl rfl
  | «variable» _ hc => exact hc.atRest ht
  | varEnd _ _ hk => rw [ht] at hk; cases hk
  | groupStart _ hk => rw [ht] at hk; cases hk
  | filters _ hc => exact hc.atRest ht
  | groupEnd _ _ hk => rw [ht] at hk; cases hk

/-- An alternating stream ends in a literal, so that no other literal is due after it. -/
theorem Reads.atRest (h : Reads symbols s i ts s') (hts : Alternating ts) : s'.AtRest := by
  obtain ⟨pre, l, rfl, hl⟩ := hts.getLast
  clear hts
  induction pre generalizing s i with
  | nil =>
      cases h with
      | cons hmove hr => cases hr; exact hmove.atRest hl
  | cons t pre ih =>
      cases h with
      | cons _ hr => exact ih hr

/-- The kinds and the indices of the opening symbols of all that is open, the innermost first. The
filters of a group keep the index of its symbol themselves. -/
def openings (s : State) : List (TokenKind × Nat) :=
  let groups := s.outer.map fun g => (TokenKind.groupStart, g.opening)
  match s.phase with
  | .nodes => groups
  | .path opening => (.varStart, opening) :: groups
  | .variable _ _ chain => (.varStart, chain.opening) :: groups
  | .filters chain => (.groupStart, chain.opening) :: groups.tail

/-- At the end of the tokens all is closed, or the innermost open construct is reported. -/
theorem AtRest.complete_or_unmatched (hs : s.AtRest) :
    s.Complete ∨ ∃ kind opening rest, s.openings = (kind, opening) :: rest ∧
      ∀ n, s.finish n
        = .error ⟨.malformed (.unmatched (unmatchedMessage kind)) ⟨opening, none⟩, n⟩ := by
  have hend : ∀ {chain : Chain} (message : String) (n : Nat), chain.AtRest →
      chain.atEnd message n = ⟨.malformed (.unmatched message) ⟨chain.opening, none⟩, n⟩ := by
    rintro chain message n (h | ⟨name, h⟩) <;> rw [Chain.atEnd, h]
  unfold AtRest at hs
  cases hphase : s.phase with
  | nodes => cases houter : s.outer with
    | nil => exact .inl ⟨hphase, houter⟩
    | cons g outer =>
        refine .inr ⟨.groupStart, g.opening, _, by rw [openings, hphase, houter]; rfl, fun n => ?_⟩
        simp only [finish, hphase, houter]
        rfl
  | path opening => rw [hphase] at hs; exact hs.elim
  | «variable» path text chain =>
      rw [hphase] at hs
      refine .inr ⟨.varStart, chain.opening, _, by rw [openings, hphase], fun n => ?_⟩
      simp only [finish, hphase, hend unmatchedVariable n hs]
      rfl
  | filters chain =>
      rw [hphase] at hs
      refine .inr ⟨.groupStart, chain.opening, _, by rw [openings, hphase], fun n => ?_⟩
      simp only [finish, hphase, hend unmatchedGroup n hs]
      rfl

/-- The stop at a token, with which reading ends: a fault at it, or that it belongs to nothing. -/
def Step.stop? (i : Nat) (t : Token) : Step → Option Stop
  | .more _ => none
  | .done => some (malformed (.unexpected t.kind t.position) (i - 1) (i + 2) i)
  | .fail stop => some stop

theorem exists_stop_of_stuck (ht : ∀ s', ¬s.Moves symbols i t s') :
    ∃ stop, (s.step symbols .template i t).stop? i t = some stop := by
  cases h : s.step symbols .template i t with
  | more s' => exact absurd (moves_iff_step.mpr h) (ht s')
  | done => exact ⟨_, rfl⟩
  | fail stop => exact ⟨stop, rfl⟩

theorem onToken_of_stop {stop : Stop}
    (h : (s.step symbols .template i t).stop? i t = some stop) : stop.OnToken := by
  have hmeaning := step_meaning symbols i t s
  generalize s.step symbols .template i t = outcome at hmeaning h
  cases outcome with
  | more s' => cases h
  | done => cases h; exact onToken_malformed (by simp)
  | fail stop => cases h; exact hmeaning

end State

/-! ## Whole streams -/

variable {symbols : Symbols} {s : State} {ts : List Token}

theorem whole_of_complete (h : State.Reads symbols {} 0 ts s) (hs : s.Complete) :
    whole symbols ts = .ok (bodyOf s.nodes.reverse, ts.length) := by
  have hrun := h.run_eq []
  rw [List.append_nil, Nat.zero_add, State.run, State.finish, hs.1] at hrun
  simp only [hs.2] at hrun
  simp [whole, nodesAt, hrun]

theorem whole_of_finish {stop : Stop} (h : State.Reads symbols {} 0 ts s)
    (hs : s.finish ts.length = .error stop) : whole symbols ts = .error stop := by
  have hrun := h.run_eq []
  rw [List.append_nil, Nat.zero_add, State.run, hs] at hrun
  simp [whole, nodesAt, hrun]

/-- A token that is not taken up ends the reading, whatever comes after it. -/
theorem whole_of_stop {t : Token} {stop : Stop} (h : State.Reads symbols {} 0 ts s)
    (hstop : (s.step symbols .template ts.length t).stop? ts.length t = some stop)
    (post : List Token) : whole symbols (ts ++ t :: post) = .error stop := by
  have hrun : nodesAt symbols .template (ts ++ t :: post) 0
      = State.run symbols .template s ts.length (t :: post) := by
    simpa [nodesAt] using h.run_eq (t :: post)
  rw [State.run] at hrun
  generalize s.step symbols .template ts.length t = outcome at hstop hrun
  cases outcome with
  | more s' => cases hstop
  | done => cases hstop; simp [whole, hrun]
  | fail stop => cases hstop; simp [whole, hrun]

/-- An alternating stream is read to its end with all closed, or to its end with a construct open,
or up to a token where the fault lies. In the last case what comes after the stream does not matter.
-/
theorem parse_cases (symbols : Symbols) (hts : Alternating ts) :
    (∃ s, State.Reads symbols {} 0 ts s ∧ s.Complete
        ∧ parse symbols ts = .ok (bodyOf s.nodes.reverse))
      ∨ (∃ s message, ∃ span : Span, State.Reads symbols {} 0 ts s ∧ s.AtRest ∧ ¬s.Complete
        ∧ message ∈ [unmatchedVariable, unmatchedGroup]
        ∧ parse symbols ts = .error (.malformed ⟨.unmatched message, span.text ts⟩))
      ∨ ∃ cause, ∃ span : Span, (∀ message, cause ≠ .unmatched message)
        ∧ ∀ us, parse symbols (ts ++ us) = .error (.malformed ⟨cause, span.text (ts ++ us)⟩) := by
  rcases State.reads_or_stuck symbols {} 0 ts with ⟨s, hr⟩ | ⟨pre, t, post, s, rfl, hr, hstuck⟩
  · have hrest := hr.atRest hts
    by_cases hs : s.Complete
    · exact .inl ⟨s, hr, hs, by simp [parse, whole_of_complete hr hs]⟩
    · obtain ⟨kind, opening, _, _, hfinish⟩ := hrest.complete_or_unmatched.resolve_left hs
      refine .inr (.inl ⟨s, _, ⟨opening, none⟩, hr, hrest, hs, unmatchedMessage_mem kind, ?_⟩)
      simp [parse, whole_of_finish hr (hfinish ts.length), ParseFault.failure]
  · rw [Nat.zero_add] at hstuck
    obtain ⟨stop, hstop⟩ := State.exists_stop_of_stuck hstuck
    obtain ⟨cause, span, hfault, hcause⟩ := State.onToken_of_stop hstop
    refine .inr (.inr ⟨cause, span, hcause, fun us => ?_⟩)
    -- what follows the stream is more of what follows the token
    have hus := whole_of_stop hr hstop (post ++ us)
    rw [← List.cons_append, ← List.append_assoc] at hus
    rw [parse, hus]
    simp only [hfault, ParseFault.failure]

end Stencil.Parse

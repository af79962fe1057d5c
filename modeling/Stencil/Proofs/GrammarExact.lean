import Stencil.Proofs.Grammar

/-!
# The parser reads exactly the grammar

Both directions follow the grammar and not the parser. What a tree writes, the parser reads, wherever
the tree stands: `Items.reads` is proved for every state in which a node may come, so that it holds
inside groups too. And what the parser reads to an end at which all is closed has a tree: in
`items_of_reads` the longest body at the front of the tokens is taken off, and what cannot start
another item is left over.

Filters are read in two places, after the path of a variable and after the body of a group. A `Slot`
is such a place, so that they are treated once.
-/

namespace Stencil.Parse

open Text Grammar

/-! ## Segments of a path -/

theorem splitPoints_eq (cs : List Char) :
    (splitPoints cs).1 :: (splitPoints cs).2 = cs.splitOn '.' := by
  induction cs with
  | nil => rfl
  | cons c cs ih =>
      rw [List.splitOn_cons_eq_if_modifyHead, ← ih, splitPoints]
      by_cases h : c = '.' <;> simp [h]

theorem segmentsOf_eq (text : String) : segmentsOf text.toList = pathSegments text := by
  rw [pathSegments, ← splitPoints_eq]
  rfl

/-! ## Places for filters -/

/-- A place where a chain of filters is read: the state that holds a chain there, the state after the
chain is closed, and what a token can do in between. -/
structure Slot (symbols : Symbols) where
  closing : TokenKind
  closing_ne : closing ≠ .param
  put : Chain → State
  close : List Call → State
  moves {c c' : Chain} {i : Nat} {t : Token} (h : c.Moves t c') :
    (put c).Moves symbols i t (put c')
  closes {c : Chain} {i : Nat} {t : Token} (h : c.AtRest) (ht : t.kind = closing) :
    (put c).Moves symbols i t (close c.made.reverse)
  cases {c : Chain} {i : Nat} {t : Token} {s' : State} (h : (put c).Moves symbols i t s') :
    (∃ c', c.Moves t c' ∧ s' = put c') ∨ (c.AtRest ∧ t.kind = closing)
  open_put (c : Chain) : ¬(put c).Complete

/-- The filters of a variable with the given path, in the state that it leads to. -/
def variableSlot (symbols : Symbols) (s : State) (path : List String) (text : String) :
    Slot symbols where
  closing := .varEnd
  closing_ne := by decide
  put c := { s with phase := .variable path text c }
  close calls := s.closeVariable symbols path text calls
  moves h := .variable rfl h
  closes h ht := .varEnd rfl h ht
  cases h := by
    cases h with
    | «variable» hs hc => cases hs; exact .inl ⟨_, hc, rfl⟩
    | varEnd hs hc ht => cases hs; exact .inr ⟨hc, ht⟩
    | literal hs => cases hs
    | varStart hs => cases hs
    | path hs => cases hs
    | groupStart hs => cases hs
    | filters hs => cases hs
    | groupEnd hs => cases hs
  open_put c h := by cases h.1

/-- The filters of the innermost group. -/
def groupSlot (symbols : Symbols) (s : State) : Slot symbols where
  closing := .groupEnd
  closing_ne := by decide
  put c := { s with phase := .filters c }
  close calls := s.closeGroup calls
  moves h := .filters rfl h
  closes h ht := .groupEnd rfl h ht
  cases h := by
    cases h with
    | filters hs hc => cases hs; exact .inl ⟨_, hc, rfl⟩
    | groupEnd hs hc ht => cases hs; exact .inr ⟨hc, ht⟩
    | literal hs => cases hs
    | varStart hs => cases hs
    | path hs => cases hs
    | «variable» hs => cases hs
    | varEnd hs => cases hs
    | groupStart hs => cases hs
  open_put c h := by cases h.1

/-- The next token moves a chain that may not end yet. -/
theorem Slot.moves_of_reads {symbols : Symbols} (slot : Slot symbols) {s' : State} {c : Chain}
    {i : Nat} {t : Token} {ts : List Token} (h : State.Reads symbols (slot.put c) i (t :: ts) s')
    (hc : ¬(c.AtRest ∧ t.kind = slot.closing)) :
    ∃ c', c.Moves t c' ∧ State.Reads symbols (slot.put c') (i + 1) ts s' := by
  cases h with
  | cons hmove hr =>
      obtain ⟨c', hmove', rfl⟩ := (slot.cases hmove).resolve_right hc
      exact ⟨c', hmove', hr⟩

/-- The first token of the filters of a group, or its end, is read as it is among the filters. -/
theorem reads_groupSlot {symbols : Symbols} {s s' : State} {c : Chain} {i : Nat} {t : Token}
    {ts : List Token} (hs : s.groupChain = some c) (ht : t.kind = .filter ∨ t.kind = .groupEnd) :
    State.Reads symbols s i (t :: ts) s'
      ↔ State.Reads symbols ((groupSlot symbols s).put c) i (t :: ts) s' := by
  have hstep : s.step symbols .template i t
      = ((groupSlot symbols s).put c).step symbols .template i t := by
    rw [State.step_of_groupChain hs (.inr ht), State.step_of_groupChain rfl (.inl rfl)]
    rfl
  have hmoves : ∀ m, s.Moves symbols i t m ↔ ((groupSlot symbols s).put c).Moves symbols i t m :=
    fun m => by rw [State.moves_iff_step, State.moves_iff_step, hstep]
  constructor
  · rintro (_ | ⟨h, hr⟩)
    exact .cons ((hmoves _).mp h) hr
  · rintro (_ | ⟨h, hr⟩)
    exact .cons ((hmoves _).mpr h) hr

/-! ## Completed constructs -/

variable {symbols : Symbols} {s : State}

theorem closeVariable_eq_push (hs : s.phase = .nodes) (path : List String) (text : String)
    (calls : List Call) :
    s.closeVariable symbols path text calls
      = s.push [.variable path calls (symbols.varStart ++ text ++ symbols.varEnd)] := by
  cases s
  cases hs
  rfl

/-- A group that was opened at `i` and got the body `nodes` is one node more. -/
theorem closeGroup_eq_push (hs : s.phase = .nodes) (i : Nat) (nodes : List Node)
    (calls : List Call) :
    (State.push { outer := ⟨i, s.nodes⟩ :: s.outer } nodes).closeGroup calls
      = s.push [.group (bodyOf nodes) calls] := by
  cases s
  cases hs
  simp [State.push, State.closeGroup]

end Stencil.Parse

namespace Stencil.Grammar

open Text Parse

/-! ## What the grammar derives is read -/

variable {symbols : Symbols}

/-- A filter call is read where the chain may end, and leaves it so, with one call more. -/
theorem FilterText.reads (slot : Slot symbols) (f : FilterText) {c : Chain} (hc : c.AtRest)
    (i : Nat) :
    ∃ c', State.Reads symbols (slot.put c) i f.tokens (slot.put c')
      ∧ c'.AtRest ∧ c'.made = f.call :: c.made := by
  obtain ⟨symbol, name, param⟩ := f
  have hsymbol := Chain.Moves.filter hc symbol.property
  have hname := Chain.Moves.name (c := ⟨c.opening, c.made, .name⟩) rfl name.token.property name.valid
  have hread := fun {us : List Token} {s' : State}
      (h : State.Reads symbols _ (i + 1 + 1) us s') =>
    State.Reads.cons (slot.moves (i := i) hsymbol) (.cons (slot.moves hname) h)
  cases param with
  | none => exact ⟨_, hread .nil, .inr ⟨_, rfl⟩, rfl⟩
  | some p =>
      refine ⟨_, hread (.cons (slot.moves (.param rfl p.symbol.property))
        (.cons (slot.moves (.value rfl p.token.property p.valid)) .nil)), .inl rfl, rfl⟩

/-- Filters and the closing symbol are read to the state after their construct. -/
theorem filters_reads (slot : Slot symbols) {stop : Token} (hstop : stop.kind = slot.closing) :
    ∀ (fs : List FilterText) {c : Chain}, c.AtRest → ∀ i,
      State.Reads symbols (slot.put c) i (filterTokens fs ++ [stop])
        (slot.close (c.made.reverse ++ fs.map FilterText.call))
  | [], c, hc, i => by
      rw [List.map_nil, List.append_nil]
      exact .single (slot.closes hc hstop)
  | f :: fs, c, hc, i => by
      obtain ⟨c', hread, hc', hmade⟩ := FilterText.reads slot f hc i
      have hrest := filters_reads slot hstop fs hc' (i + f.tokens.length)
      rw [hmade, List.reverse_cons, List.append_assoc] at hrest
      rw [filterTokens_cons, List.append_assoc]
      exact hread.append hrest

/-- The filters of a group start with a filter symbol, or there are none and the group ends. -/
theorem filters_stop_cons (fs : List FilterText) (stop : Lexeme .groupEnd) :
    ∃ t ts, filterTokens fs ++ [stop.val] = t :: ts
      ∧ (t.kind = .filter ∨ t.kind = .groupEnd) := by
  cases fs with
  | nil => exact ⟨_, _, rfl, .inr stop.property⟩
  | cons f fs => exact ⟨_, _, rfl, .inl f.symbol.property⟩

mutual

theorem Item.reads : ∀ (x : Item) {s : State}, s.phase = .nodes → ∀ i,
    State.Reads symbols s i x.tokens (s.push [x.node symbols])
  | .variable start path filters stop, s, hs, i => by
      have hpath := path.valid
      have hfilters := filters_reads
        (variableSlot symbols s ((pathSegments path.token.val.text).map String.ofList)
          path.token.val.text)
        stop.property filters (c := { opening := i }) (.inl rfl) (i + 1 + 1)
      rw [← segmentsOf_eq] at hpath hfilters
      rw [Item.node, ← closeVariable_eq_push hs, ← segmentsOf_eq]
      exact .cons (.varStart hs start.property) (.cons (.path rfl path.token.property hpath) hfilters)
  | .group start body filters stop, s, hs, i => by
      have hbody := Items.reads body (s := { outer := ⟨i, s.nodes⟩ :: s.outer }) rfl (i + 1)
      have hfilters := filters_reads
        (groupSlot symbols
          (State.push { outer := ⟨i, s.nodes⟩ :: s.outer } (body.nodes symbols)))
        stop.property filters (c := { opening := i }) (.inl rfl) (i + 1 + body.tokens.length)
      obtain ⟨t, ts, heq, ht⟩ := filters_stop_cons filters stop
      rw [heq, ← reads_groupSlot rfl ht, ← heq] at hfilters
      rw [Item.node, ← closeGroup_eq_push hs i]
      exact .cons (.groupStart hs start.property) (hbody.append hfilters)

/-- A body is read where a node may come, inside groups and outside. -/
theorem Items.reads : ∀ (d : Items) {s : State}, s.phase = .nodes → ∀ i,
    State.Reads symbols s i d.tokens (s.push (d.nodes symbols))
  | .last text, s, hs, i => .single (.literal hs text.property)
  | .more text item rest, s, hs, i => by
      have hitem := Item.reads item (s := s.push (literalNodes text.val.text)) hs (i + 1)
      have hrest := Items.reads rest
        (s := (s.push (literalNodes text.val.text)).push [item.node symbols]) hs
        (i + 1 + item.tokens.length)
      rw [State.push_push, State.push_push, List.append_assoc] at hrest
      rw [State.push_push] at hitem
      exact .cons (.literal hs text.property) (hitem.append hrest)

end

/-! ## What is read has a derivation -/

/-- The name, and with it perhaps a parameter, that is read after a filter symbol. What follows is no
parameter symbol, if there was no parameter. -/
theorem filter_of_reads (slot : Slot symbols) {s' : State} (symbol : Lexeme .filter)
    {ts : List Token} {opening i : Nat} {calls : List Call} (hts : Alternating ts)
    (h : State.Reads symbols (slot.put ⟨opening, calls, .name⟩) i ts s') :
    ∃ f rest c' j, symbol.val :: ts = FilterText.tokens f ++ rest ∧ AfterLiteral rest
      ∧ c'.AtRest ∧ (c'.stage = .rest ∨ ∀ t ∈ rest.head?, t.kind ≠ .param)
      ∧ State.Reads symbols (slot.put c') j rest s' := by
  obtain _ | ⟨n, us⟩ := ts
  · exact absurd hts not_alternating_nil
  obtain ⟨c₁, hmove, hr⟩ := slot.moves_of_reads h fun h => Chain.not_atRest_of_name rfl h.1
  obtain ⟨hn, hname, rfl⟩ := hmove.of_name
  have hus := (alternating_cons.mp hts).2
  by_cases hhead : ∀ t ∈ us.head?, t.kind ≠ .param
  · exact ⟨⟨symbol, ⟨⟨n, hn⟩, hname⟩, none⟩, us, _, _, rfl, hus, .inr ⟨_, rfl⟩, .inr hhead, hr⟩
  obtain _ | ⟨p, vs⟩ := us
  · exact absurd nofun hhead
  have hp : p.kind = .param := by simpa using hhead
  obtain ⟨c₂, hmove, hr⟩ := slot.moves_of_reads hr fun h => slot.closing_ne (h.2.symm.trans hp)
  rcases hmove.of_atRest (.inr ⟨_, rfl⟩) with ⟨hf, -⟩ | ⟨-, name, hstage, rfl⟩
  · rw [hp] at hf; cases hf
  cases hstage
  obtain _ | ⟨v, vs⟩ := vs
  · exact absurd hus.2 not_alternating_nil
  obtain ⟨c₃, hmove, hr⟩ := slot.moves_of_reads hr fun h => Chain.not_atRest_of_value rfl h.1
  obtain ⟨hv, param, hparam, rfl⟩ := hmove.of_value
  exact ⟨⟨symbol, ⟨⟨n, hn⟩, hname⟩, some ⟨⟨p, hp⟩, ⟨v, hv⟩, param, hparam⟩⟩, vs, _, _, rfl,
    (alternating_cons.mp hus.2).2, .inl rfl, .inl rfl, hr⟩

theorem FilterText.length_tokens_pos (f : FilterText) : 0 < f.tokens.length := by
  simp [tokens]

/-- Filters that are read to an end at which all is closed. A chain that may get a parameter has to be
excluded at the start, since the parameter would belong to the call before. -/
theorem filters_of_reads (slot : Slot symbols) {s' : State} (hs : s'.Complete) (ts : List Token)
    {c : Chain} {i : Nat} (hts : AfterLiteral ts) (hc : c.AtRest)
    (hparam : c.stage = .rest ∨ ∀ t ∈ ts.head?, t.kind ≠ .param)
    (h : State.Reads symbols (slot.put c) i ts s') :
    ∃ fs stop rest, ts = filterTokens fs ++ stop :: rest ∧ stop.kind = slot.closing
      ∧ Alternating rest := by
  match ts, hts with
  | [], _ =>
      cases h
      exact absurd hs (slot.open_put c)
  | t :: us, ⟨_, hus⟩ =>
      by_cases ht : t.kind = slot.closing
      · exact ⟨[], t, us, rfl, ht, hus⟩
      obtain ⟨c', hmove, hr⟩ := slot.moves_of_reads h fun h => ht h.2
      rcases hmove.of_atRest hc with ⟨hf, rfl⟩ | ⟨hp, name, hstage, -⟩
      · obtain ⟨f, rest, c', j, heq, hrest, hc', hparam', hr⟩ := filter_of_reads slot ⟨t, hf⟩ hus hr
        have hlt : rest.length < us.length + 1 := by
          rw [← List.length_cons, heq, List.length_append]
          exact Nat.lt_add_of_pos_left f.length_tokens_pos
        obtain ⟨fs, stop, rest', rfl, hstop, hrest'⟩ :=
          filters_of_reads slot hs rest hrest hc' hparam' hr
        exact ⟨f :: fs, stop, rest', by simpa using heq, hstop, hrest'⟩
      · rcases hparam with h | h
        · rw [hstage] at h; cases h
        · exact absurd hp (h t rfl)
termination_by ts.length

theorem variable_of_reads {s s' : State} (hs' : s'.Complete) (start : Lexeme .varStart)
    {ts : List Token} {i : Nat} (hts : Alternating ts) (hs : s.phase = .nodes)
    (h : State.Reads symbols s i (start.val :: ts) s') :
    ∃ x rest, start.val :: ts = Item.tokens x ++ rest ∧ Alternating rest := by
  have hr := (State.Reads.single (.varStart hs start.property)).append_iff.mp h
  obtain _ | ⟨p, us⟩ := ts
  · exact absurd hts not_alternating_nil
  obtain _ | ⟨hmove, hr⟩ := hr
  obtain ⟨hp, hpath, rfl⟩ := hmove.of_path rfl
  obtain ⟨fs, stop, rest, rfl, hstop, hrest⟩ :=
    filters_of_reads (variableSlot symbols s _ _) hs' us (alternating_cons.mp hts).2
      (.inl rfl) (.inl rfl) hr
  rw [segmentsOf_eq] at hpath
  exact ⟨.variable start ⟨⟨p, hp⟩, hpath⟩ fs ⟨stop, hstop⟩, rest, by simp [Item.tokens], hrest⟩

/-- A group is read up to its closing symbol, if its body is as long as items follow. -/
theorem group_of_reads {s s' : State} (hs' : s'.Complete) (start : Lexeme .groupStart)
    (body : Items) {ts : List Token} {i : Nat} (hts : AfterLiteral ts) (hends : EndsItems ts)
    (hs : s.phase = .nodes) (h : State.Reads symbols s i (start.val :: (body.tokens ++ ts)) s') :
    ∃ x rest, start.val :: (body.tokens ++ ts) = Item.tokens x ++ rest ∧ Alternating rest := by
  have hopened := (State.Reads.single (.groupStart hs start.property)).append_iff.mp h
  have hr := (Items.reads body rfl _).append_iff.mp hopened
  match ts, hts with
  | [], _ =>
      cases hr
      cases hs'.2
  | t :: us, ⟨hl, hus⟩ =>
      obtain ⟨hv, hg⟩ := hends t rfl
      obtain ⟨-, ht⟩ : _ ∧ (t.kind = .filter ∨ t.kind = .groupEnd) := by
        cases hr with
        | cons hmove => exact hmove.of_nodes rfl hl hv hg
      rw [reads_groupSlot rfl ht] at hr
      obtain ⟨fs, stop, rest, heq, hstop, hrest⟩ :=
        filters_of_reads (groupSlot symbols _) hs' (t :: us) ⟨hl, hus⟩ (.inl rfl) (.inl rfl) hr
      exact ⟨.group start body fs ⟨stop, hstop⟩, rest, by simp [Item.tokens, heq], hrest⟩

theorem Item.length_tokens_pos (x : Item) : 0 < x.tokens.length := by
  obtain ⟨t, ts, hx, -⟩ := x.tokens_cons
  simp [hx]

/-- The longest body at the front of tokens that are read to an end at which all is closed. The
induction is on the tokens: the body of a group is shorter than what the group starts, and so is what
follows the group. -/
theorem items_of_reads {s' : State} (hs' : s'.Complete) :
    ∀ (ts : List Token) {s : State} {i : Nat}, Alternating ts → s.phase = .nodes →
      State.Reads symbols s i ts s' →
      ∃ d rest, ts = Items.tokens d ++ rest ∧ AfterLiteral rest ∧ EndsItems rest
  | [], _, _, hts, _, _ => absurd hts not_alternating_nil
  | [l], _, _, hts, _, _ => ⟨.last ⟨l, (alternating_cons.mp hts).1⟩, [], rfl, trivial, nofun⟩
  | l :: t :: us, s, i, hts, hs, h => by
      obtain ⟨hl, ht, hus⟩ := alternating_cons_cons.mp hts
      have hr := (State.Reads.single (.literal hs hl)).append_iff.mp h
      have hm : (s.push (literalNodes l.text)).phase = .nodes := hs
      -- a token that starts no item ends the body behind this literal
      by_cases hstart : t.kind ≠ .varStart ∧ t.kind ≠ .groupStart
      · refine ⟨.last ⟨l, hl⟩, t :: us, rfl, ⟨ht, hus⟩, ?_⟩
        rintro _ ⟨⟩
        exact hstart
      obtain ⟨x, rest, heq, hrest⟩ :
          ∃ x rest, t :: us = Item.tokens x ++ rest ∧ Alternating rest := by
        rcases Decidable.or_iff_not_imp_left.mpr (by simpa using hstart) with hv | hg
        · exact variable_of_reads hs' ⟨t, hv⟩ hus hm hr
        · have hopened := (State.Reads.single (.groupStart hm hg)).append_iff.mp hr
          obtain ⟨body, rest, rfl, hrest, hends⟩ := items_of_reads hs' us hus rfl hopened
          exact group_of_reads hs' ⟨t, hg⟩ body hrest hends hm hr
      have hlt : rest.length < us.length + 1 := by
        rw [← List.length_cons, heq, List.length_append]
        exact Nat.lt_add_of_pos_left x.length_tokens_pos
      obtain ⟨d, rest', rfl, hrest', hends⟩ :=
        items_of_reads hs' rest (s := (s.push (literalNodes l.text)).push [x.node symbols]) hrest hm
          ((Item.reads x hm _).append_iff.mp (heq ▸ hr))
      exact ⟨.more ⟨l, hl⟩ x d, rest', by simp [Items.tokens, heq], hrest', hends⟩
termination_by ts => ts.length

/-! ## Whole streams -/

theorem parse_tokens (symbols : Symbols) (d : Items) :
    parse symbols d.tokens = .ok (bodyOf (d.nodes symbols)) := by
  have hr : State.Reads symbols {} 0 d.tokens _ := Items.reads d rfl 0
  have hwhole := whole_of_complete hr ⟨rfl, rfl⟩
  rw [State.push, List.append_nil, List.reverse_reverse] at hwhole
  rw [parse, hwhole]

/-- Behind the longest body nothing is left at the top level, since nothing there closes a group. -/
theorem exists_items_of_complete {s : State} {ts : List Token} (hts : Alternating ts)
    (h : State.Reads symbols {} 0 ts s) (hs : s.Complete) : ∃ d, Items.tokens d = ts := by
  obtain ⟨d, rest, rfl, hrest, hends⟩ := items_of_reads hs ts hts rfl h
  obtain _ | ⟨t, us⟩ := rest
  · exact ⟨d, (List.append_nil _).symm⟩
  obtain ⟨hv, hg⟩ := hends t rfl
  have hr := (Items.reads d (s := {}) rfl 0).append_iff.mp h
  cases hr with
  | cons hmove => exact absurd (hmove.of_nodes rfl hrest.1 hv hg).1 (by simp [State.groupChain])

theorem parse_ok_iff (symbols : Symbols) {ts : List Token} (hts : Alternating ts) :
    (∃ nodes, parse symbols ts = .ok nodes) ↔ ∃ d, Items.tokens d = ts := by
  constructor
  · rintro ⟨nodes, hok⟩
    rcases parse_cases symbols hts with ⟨s, hr, hs, -⟩ | ⟨s, message, span, -, -, -, -, herr⟩ |
      ⟨cause, span, -, herr⟩
    · exact exists_items_of_complete hts hr hs
    · cases hok.symm.trans herr
    · have herr := herr []
      rw [List.append_nil] at herr
      cases hok.symm.trans herr
  · rintro ⟨d, rfl⟩
    exact ⟨_, parse_tokens symbols d⟩

/-- What has no nodes is malformed: the tokens never end where a literal has to follow. -/
theorem parse_malformed (symbols : Symbols) {ts : List Token} (hts : Alternating ts)
    (h : ¬∃ nodes, parse symbols ts = .ok nodes) :
    ∃ e, parse symbols ts = .error (.malformed e) := by
  rcases parse_cases symbols hts with ⟨s, -, -, hok⟩ | ⟨s, message, span, -, -, -, -, herr⟩ |
    ⟨cause, span, -, herr⟩
  · exact absurd ⟨_, hok⟩ h
  · exact ⟨_, herr⟩
  · have herr := herr []
    rw [List.append_nil] at herr
    exact ⟨_, herr⟩

/--
Parsing is exact for the grammar, on every stream in which literals and symbols alternate: there are
nodes just for the streams that have a derivation; the derivation is unique; the nodes are those that
it denotes, with an empty literal for an empty template; and without a derivation the template is
malformed.
-/
theorem parse_exact (symbols : Symbols) {ts : List Token} (hts : Alternating ts) :
    ((∃ nodes, parse symbols ts = .ok nodes) ↔ ∃ d, Items.tokens d = ts)
      ∧ (∀ d d', Items.tokens d = ts → Items.tokens d' = ts → d = d')
      ∧ (∀ d, Items.tokens d = ts → parse symbols ts = .ok (bodyOf (d.nodes symbols)))
      ∧ ((¬∃ d, Items.tokens d = ts) → ∃ e, parse symbols ts = .error (.malformed e)) := by
  refine ⟨parse_ok_iff symbols hts, fun d d' h h' => ?_, ?_, fun h => ?_⟩
  · exact Items.eq_of_tokens (h.trans h'.symm)
  · rintro d rfl
    exact parse_tokens symbols d
  · exact parse_malformed symbols hts fun hok => h ((parse_ok_iff symbols hts).mp hok)

/-- A group around a variable whose filter has a parameter. -/
theorem parse_exact_nested :
    Alternating (tokenize {} "[Hi \x7ba.b|f=2\x7d|g]")
      ∧ (∃ nodes, parse {} (tokenize {} "[Hi \x7ba.b|f=2\x7d|g]") = .ok nodes)
      ∧ ∃ d, Items.tokens d = tokenize {} "[Hi \x7ba.b|f=2\x7d|g]"
        ∧ ∀ d', Items.tokens d' = tokenize {} "[Hi \x7ba.b|f=2\x7d|g]" → d' = d := by
  have hts : Alternating (tokenize {} "[Hi \x7ba.b|f=2\x7d|g]") := by decide
  obtain ⟨hiff, hunique, -, -⟩ := parse_exact {} hts
  have hok : ∃ nodes, parse {} (tokenize {} "[Hi \x7ba.b|f=2\x7d|g]") = .ok nodes := ⟨_, rfl⟩
  obtain ⟨d, hd⟩ := hiff.mp hok
  exact ⟨hts, hok, d, hd, fun d' hd' => hunique d' d hd' hd⟩

end Stencil.Grammar

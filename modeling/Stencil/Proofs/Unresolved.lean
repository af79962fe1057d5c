import Stencil.Proofs.Compilation

/-!
# Templates of which nothing resolves

A variable without a value shows the symbols around the text of its path, and none of its filters is
called. So if no variable has a value, and no group has filters, a template renders as itself without
the symbols of its groups and without the calls of its variables (`renderStrict_unresolved`).

What is left of a template is said of its clusters (`bare`), without its nodes. The same is said of
its tokens (`bareOf`), where it can be followed along the tree: what an item shows is what is left of
its tokens, whatever comes after them.
-/

namespace Stencil

open Text Parse Grammar

/-! ## What is left of a template -/

/-- The clusters that are neither symbols of groups nor in the filter calls of a variable. Calls are
open from a filter symbol up to the end of the variable. -/
def bare (symbols : Symbols) (inCalls : Bool) : List String → List String
  | [] => []
  | c :: cs =>
    match symbols.kind? c with
    | some .groupStart | some .groupEnd => bare symbols inCalls cs
    | some .filter => bare symbols true cs
    | some .varEnd => c :: bare symbols false cs
    | _ => if inCalls then bare symbols true cs else c :: bare symbols false cs

/-- A template without the symbols of its groups and without its filter calls. -/
def bareText (symbols : Symbols) (template : String) : String :=
  String.join (bare symbols false (Text.segment template))

/-- The text of the tokens that are neither symbols of groups nor in filter calls. -/
def bareOf (inCalls : Bool) : List Token → String
  | [] => ""
  | t :: ts =>
    match t.kind with
    | .groupStart | .groupEnd => bareOf inCalls ts
    | .filter => bareOf true ts
    | .varEnd => t.text ++ bareOf false ts
    | .literal | .varStart | .param => if inCalls then bareOf true ts else t.text ++ bareOf false ts

variable {symbols : Symbols}

theorem join_bare (inCalls : Bool) (p : Nat) (cs : List String) :
    String.join (bare symbols inCalls cs) = bareOf inCalls (tokensFrom symbols p cs) := by
  induction cs generalizing inCalls p with
  | nil => cases inCalls <;> simp [bare, bareOf]
  | cons c cs ih =>
      cases h : symbols.kind? c with
      | none =>
          have hcs := ih inCalls (p + 1)
          obtain ⟨text, ts, heq⟩ := tokensFrom_eq_cons symbols (p + 1) cs
          rw [heq] at hcs
          rw [tokensFrom_plain h, heq, prependCluster]
          cases inCalls with
          | false =>
              simp only [bareOf, Bool.false_eq_true, if_false] at hcs
              simp [bare, h, bareOf, hcs, String.append_assoc]
          | true => simpa [bare, h, bareOf] using hcs
      | some k =>
          rw [tokensFrom_symbol h]
          cases k with
          | literal => exact absurd rfl (Symbols.kind_ne_literal h)
          | varStart | param | filter | varEnd | groupStart | groupEnd =>
              cases inCalls <;> simp [bare, h, bareOf, ih _ (p + 1)]

/-- Filter calls leave nothing, and the end of their variable closes them. -/
theorem bareOf_filterTokens (inCalls : Bool) (fs : List FilterText) (stop : Lexeme .varEnd)
    (r : List Token) :
    bareOf inCalls (filterTokens fs ++ stop.val :: r) = stop.val.text ++ bareOf false r := by
  induction fs generalizing inCalls with
  | nil => simp [bareOf, stop.property]
  | cons f fs ih =>
      obtain ⟨symbol, name, param⟩ := f
      have hname : name.token.val.kind = .literal := name.token.property
      cases param with
      | none => simp [FilterText.tokens, bareOf, symbol.property, hname, ih]
      | some p =>
          simp [FilterText.tokens, ParamText.tokens, bareOf, symbol.property, hname,
            p.symbol.property, p.token.property, ih]

/-! ## What the nodes show -/

/-- No group has filter calls. -/
def GroupsUnfiltered (nodes : List Node) : Prop :=
  ∀ children filters, .group children filters ∈ Node.partsOf nodes → filters = []

/-- No variable has a value. -/
def Unresolved (context : Value) (nodes : List Node) : Prop :=
  ∀ path filters source, .variable path filters source ∈ Node.partsOf nodes →
    context.resolve? path = .ok none

/-- There are neither groups nor filter calls. -/
def Flat (nodes : List Node) : Prop :=
  ∀ m ∈ Node.partsOf nodes,
    (∃ text, m = .literal text) ∨ ∃ path source, m = .variable path [] source

/-- A node whose rendering calls no filter: a variable without a value, or a group without calls. -/
def Node.Inert (context : Value) : Node → Prop
  | .variable path _ _ => context.resolve? path = .ok none
  | .group _ filters => filters = []
  | _ => True

theorem inert_of_unresolved {context : Value} {nodes : List Node} (hgroups : GroupsUnfiltered nodes)
    (hmissing : Unresolved context nodes) {m : Node} (hm : m ∈ Node.partsOf nodes) :
    m.Inert context := by
  cases m with
  | «variable» path filters source => exact hmissing path filters source hm
  | group children filters => exact hgroups children filters hm
  | literal | unknown => exact trivial

/-- Each symbol among the tokens is that of its role. -/
def SymbolsIn (symbols : Symbols) (ts : List Token) : Prop :=
  ∀ t ∈ ts, t.kind ≠ .literal → symbols.kind? t.text = some t.kind

theorem SymbolsIn.text_eq {ts : List Token} (h : SymbolsIn symbols ts) {kind : TokenKind}
    (t : Lexeme kind) (hkind : kind ≠ .literal) (ht : t.val ∈ ts) :
    t.val.text = symbols.ofRole kind := by
  have hk := h t.val ht (by rw [t.property]; exact hkind)
  rw [t.property] at hk
  exact Symbols.eq_ofRole_of_kind? hk

section Show

variable {σ : Type} {scene : Scene σ}

theorem Scene.renderNode_unresolved {path : List String} (filters : List Call) (source : String)
    (h : scene.context.resolve? path = .ok none) :
    scene.renderNode (.variable path filters source) = pure source := by
  funext run
  rw [renderNode_variable_run, h]
  rfl

theorem Scene.renderNode_group_nil {children : List Node} {text : String}
    (h : scene.renderNodes children = pure text) :
    scene.renderNode (.group children []) = pure text := by
  funext run
  rw [renderNode_group_run, h]
  rfl

variable (scene)

mutual

theorem Grammar.Item.renders_bare : ∀ (x : Item), SymbolsIn symbols x.tokens →
    (∀ m ∈ (x.node symbols).parts, m.Inert scene.context) →
    ∃ text, scene.renderNode (x.node symbols) = pure text
      ∧ ∀ r, bareOf false (x.tokens ++ r) = text ++ bareOf false r
  | .variable start path filters stop, hsymbols, hinert => by
      have hmissing := hinert _ (Node.mem_parts_self _)
      refine ⟨_, Scene.renderNode_unresolved _ _ hmissing, fun r => ?_⟩
      have hstart : start.val.text = symbols.varStart :=
        hsymbols.text_eq start (by decide) (by simp [Item.tokens])
      have hstop : stop.val.text = symbols.varEnd :=
        hsymbols.text_eq stop (by decide) (by simp [Item.tokens])
      have hcalls := bareOf_filterTokens false filters stop r
      simp only [Item.tokens, List.cons_append, List.append_assoc, List.nil_append, bareOf,
        start.property, path.token.property, Bool.false_eq_true, if_false, hcalls]
      rw [hstart, hstop]
      simp only [String.append_assoc]
  | .group start body filters stop, hsymbols, hinert => by
      have hnil : filters = [] := by
        have hcalls := hinert _ (Node.mem_parts_self _)
        exact List.map_eq_nil_iff.mp hcalls
      subst hnil
      have hbody : SymbolsIn symbols body.tokens := fun t ht =>
        hsymbols t (by simp [Item.tokens, ht])
      have hchildren : ∀ m ∈ Node.partsOf (body.nodes symbols), m.Inert scene.context := by
        intro m hm
        refine hinert m ?_
        rw [Item.node, Node.parts]
        exact List.mem_cons_of_mem _ (Node.mem_partsOf_bodyOf_of_mem hm)
      obtain ⟨text, hrender, hbare⟩ := Items.renders_bare body hbody hchildren
      rw [← Scene.renderNodes_bodyOf] at hrender
      refine ⟨text, Scene.renderNode_group_nil hrender, fun r => ?_⟩
      simp only [Item.tokens, List.cons_append, List.append_assoc, List.nil_append, bareOf,
        start.property, filterTokens_nil, hbare, stop.property]

theorem Grammar.Items.renders_bare : ∀ (d : Items), SymbolsIn symbols d.tokens →
    (∀ m ∈ Node.partsOf (d.nodes symbols), m.Inert scene.context) →
    ∃ text, scene.renderNodes (d.nodes symbols) = pure text
      ∧ ∀ r, bareOf false (d.tokens ++ r) = text ++ bareOf false r
  | .last text, _, _ =>
      ⟨text.val.text, Scene.renderNodes_literalNodes scene text.val.text, fun r => by
        simp [Items.tokens, bareOf, text.property]⟩
  | .more text item rest, hsymbols, hinert => by
      rw [Items.nodes, Node.partsOf_append, Node.partsOf] at hinert
      have hitem : SymbolsIn symbols item.tokens := fun t ht =>
        hsymbols t (by simp [Items.tokens, ht])
      have hrest : SymbolsIn symbols rest.tokens := fun t ht =>
        hsymbols t (by simp [Items.tokens, ht])
      obtain ⟨first, hfirst, hbare⟩ := Item.renders_bare item hitem fun m hm =>
        hinert m (by simp [hm])
      obtain ⟨others, hothers, hbare'⟩ := Items.renders_bare rest hrest fun m hm =>
        hinert m (by simp [hm])
      refine ⟨text.val.text ++ (first ++ others), ?_, fun r => ?_⟩
      · rw [Items.nodes, Scene.renderNodes_append, Scene.renderNodes_literalNodes,
          Scene.renderNodes_cons, hfirst, hothers, ← Eval.pure_append_pure, ← Eval.pure_append_pure]
        rfl
      · simp only [Items.tokens, List.cons_append, List.append_assoc, bareOf, text.property,
          Bool.false_eq_true, if_false, hbare, hbare', String.append_assoc]

end

end Show

/-! ## Templates without groups and calls -/

/-- Neither a symbol of a group nor of a filter call. -/
def Token.Plain (t : Token) : Prop :=
  t.kind = .literal ∨ t.kind = .varStart ∨ t.kind = .varEnd

theorem bareOf_plain {ts : List Token} (h : ∀ t ∈ ts, t.Plain) : bareOf false ts = sourceOf ts := by
  induction ts with
  | nil => rfl
  | cons t ts ih =>
      obtain ⟨ht, hts⟩ := List.forall_mem_cons.mp h
      have hcons : sourceOf (t :: ts) = t.text ++ sourceOf ts := by simp [sourceOf]
      rw [hcons, ← ih hts]
      rcases ht with ht | ht | ht <;> simp [bareOf, ht]

theorem Grammar.Items.plain_of_flat : ∀ (d : Items), Flat (d.nodes symbols) →
    ∀ t ∈ d.tokens, t.Plain
  | .last text, _, t, ht => by
      rw [Items.tokens, List.mem_singleton] at ht
      exact .inl (ht ▸ text.property)
  | .more text item rest, hflat, t, ht => by
      rw [Flat, Items.nodes, Node.partsOf_append, Node.partsOf] at hflat
      rw [Items.tokens, List.mem_cons, List.mem_append] at ht
      rcases ht with rfl | ht | ht
      · exact .inl text.property
      · have hitem := hflat (item.node symbols) (by simp [Node.mem_parts_self])
        cases item with
        | group => rcases hitem with ⟨_, h⟩ | ⟨_, _, h⟩ <;> cases h
        | «variable» start path filters stop =>
            have hnil : filters = [] := by
              rcases hitem with ⟨_, h⟩ | ⟨_, _, h⟩
              · cases h
              · rw [Item.node, Node.variable.injEq] at h
                exact List.map_eq_nil_iff.mp h.2.1
            subst hnil
            simp only [Item.tokens, filterTokens_nil, List.nil_append, List.mem_cons,
              List.not_mem_nil, or_false] at ht
            rcases ht with rfl | rfl | rfl
            · exact .inr (.inl start.property)
            · exact .inl path.token.property
            · exact .inr (.inr stop.property)
      · exact Items.plain_of_flat rest (fun m hm => hflat m (by simp [hm])) t ht

theorem bareText_of_flat {template : String} {d : Items}
    (hd : d.tokens = tokenize symbols template) (hflat : Flat (d.nodes symbols)) :
    bareText symbols template = template := by
  rw [bareText, join_bare false 0, ← tokenize_eq, ← hd, bareOf_plain (d.plain_of_flat hflat), hd,
    tokenize_eq, sourceOf_tokensFrom, join_segment]

/-! ## Engines -/

theorem resolve?_empty {path : List String} (hpath : path ≠ []) :
    (Value.dict []).resolve? path = .ok none := by
  cases path with
  | nil => exact absurd rfl hpath
  | cons key path => rfl

variable {σ : Type} {e : Engine} {a : Arguments σ}

theorem Engine.renderStrict_of_pure {template text : String} {nodes : List Node} (ha : a.Accepted)
    (h : e.compile (.str template) = .ok nodes)
    (hrender : (e.scene a).renderNodes nodes = pure text) (run : Run σ) :
    e.renderStrict (.str template) a run = { result := .ok text, run } := by
  rw [renderStrict_of_compile ha h, hrender]
  rfl

theorem Engine.renderStrict_bare {template : String} {nodes : List Node} (ha : a.Accepted)
    (h : e.compile (.str template) = .ok nodes) (hgroups : GroupsUnfiltered nodes)
    (hmissing : Unresolved a.contextOrEmpty nodes) (run : Run σ) :
    e.renderStrict (.str template) a run
      = { result := .ok (bareText e.options.symbols template), run } := by
  obtain ⟨d, hd, rfl⟩ := exists_items_of_compile h
  have hsymbols : SymbolsIn e.options.symbols d.tokens := by
    rw [hd]
    exact fun t ht hk => kind?_of_mem_tokensFrom ht hk
  obtain ⟨text, hrender, hbare⟩ := d.renders_bare (e.scene a) hsymbols fun m hm =>
    inert_of_unresolved hgroups hmissing (Node.mem_partsOf_bodyOf_of_mem hm)
  have htext : bareText e.options.symbols template = text := by
    have hall := hbare []
    rw [List.append_nil, hd, tokenize_eq] at hall
    rw [bareText, join_bare false 0, hall, bareOf, String.append_empty]
  rw [htext]
  rw [← Scene.renderNodes_bodyOf] at hrender
  exact renderStrict_of_pure ha h hrender run

/--
If no variable of a template has a value and its groups have no filters, then it renders as itself
without the symbols of groups and without filter calls, and no filter is called: the run is the same
afterwards. So a template with neither groups nor filter calls renders as itself, and a text without
symbols does, whatever the context. In the empty context no variable has a value.
-/
theorem renderStrict_unresolved (e : Engine) {σ : Type} (a : Arguments σ) (ha : a.Accepted) :
    (∀ template nodes, e.compile (.str template) = .ok nodes → GroupsUnfiltered nodes →
        Unresolved a.contextOrEmpty nodes → ∀ run,
        e.renderStrict (.str template) a run
          = { result := .ok (bareText e.options.symbols template), run })
      ∧ (∀ template nodes, e.compile (.str template) = .ok nodes → Flat nodes →
        Unresolved a.contextOrEmpty nodes → ∀ run,
        e.renderStrict (.str template) a run = { result := .ok template, run })
      ∧ (∀ template, (∀ c ∈ Text.segment template, e.options.symbols.kind? c = none) → ∀ run,
        e.renderStrict (.str template) a run = { result := .ok template, run })
      ∧ ∀ template nodes, e.compile (.str template) = .ok nodes → Unresolved (.dict []) nodes := by
  refine ⟨?_, ?_, ?_, ?_⟩
  · intro template nodes h hgroups hmissing run
    exact Engine.renderStrict_bare ha h hgroups hmissing run
  · intro template nodes h hflat hmissing run
    have hgroups : GroupsUnfiltered nodes := by
      intro children filters hm
      rcases hflat _ hm with ⟨_, h⟩ | ⟨_, _, h⟩ <;> cases h
    rw [Engine.renderStrict_bare ha h hgroups hmissing run]
    obtain ⟨d, hd, rfl⟩ := Engine.exists_items_of_compile h
    rw [bareText_of_flat hd fun m hm => hflat m (Node.mem_partsOf_bodyOf_of_mem hm)]
  · intro template hplain run
    have htokens : tokenize e.options.symbols template = [⟨.literal, template, 0⟩] := by
      rw [tokenize_eq, tokensFrom_of_plain 0 hplain, join_segment]
      rfl
    have hparse := parse_tokens e.options.symbols (.last ⟨⟨.literal, template, 0⟩, rfl⟩)
    rw [Items.tokens, ← htokens] at hparse
    refine Engine.renderStrict_of_pure ha (Engine.compile_eq_ok_iff.mpr hparse) ?_ run
    rw [Scene.renderNodes_bodyOf, Items.nodes, Scene.renderNodes_literalNodes]
  · intro template nodes h path filters source hm
    have hmade := Engine.made_of_compile h hm
    cases hmade with
    | «variable» hpath => exact resolve?_empty hpath

/-- The brackets of the group and the filter call of the variable are left out. -/
theorem renderStrict_unresolved_nested :
    ∃ (nodes : List Node) (a : Arguments Unit), a.Accepted
      ∧ Engine.plain.compile (.str "[a \x7bx.y|f=2\x7d]b") = .ok nodes
      ∧ GroupsUnfiltered nodes ∧ Unresolved a.contextOrEmpty nodes
      ∧ ∀ run, Engine.plain.renderStrict (.str "[a \x7bx.y|f=2\x7d]b") a run
          = { result := .ok "a \x7bx.y\x7db", run } := by
  let a : Arguments Unit := ⟨.none, .absent⟩
  have ha : a.Accepted := ⟨[], rfl, by simp [Registry.Callable]⟩
  let nodes : List Node :=
    [.group [.literal "a ", .variable ["x", "y"] [⟨"f", some (.literal (.int 2))⟩] "\x7bx.y\x7d"] [],
      .literal "b"]
  have hcompile : Engine.plain.compile (.str "[a \x7bx.y|f=2\x7d]b") = .ok nodes := rfl
  have hgroups : GroupsUnfiltered nodes := by
    intro children filters hm
    simp only [nodes, Node.partsOf, Node.parts, List.mem_append, List.mem_cons, List.not_mem_nil,
      Node.group.injEq, reduceCtorEq, or_false] at hm
    exact hm.2
  obtain ⟨hbare, -, -, hempty⟩ := renderStrict_unresolved Engine.plain a ha
  have hmissing : Unresolved a.contextOrEmpty nodes := hempty _ nodes hcompile
  have htext : bareText Engine.plain.options.symbols "[a \x7bx.y|f=2\x7d]b" = "a \x7bx.y\x7db" := by
    decide
  refine ⟨nodes, a, ha, hcompile, hgroups, hmissing, fun run => ?_⟩
  rw [hbare _ nodes hcompile hgroups hmissing run, htext]

end Stencil

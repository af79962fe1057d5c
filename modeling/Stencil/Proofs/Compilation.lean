import Stencil.Proofs.GrammarExact
import Stencil.Proofs.Reaching
import Stencil.Proofs.Relations
import Stencil.Proofs.Tokenize

/-!
# Templates with nodes

A template has nodes just if its tokens have a tree, and then the nodes are those of that tree
(`Engine.exists_items_of_compile`). A strict render with filters that are functions evaluates these
nodes, on the scene that the engine and the arguments make (`Engine.renderStrict_of_compile`);
otherwise it gives an error and leaves the run as it was.
-/

namespace Stencil

open Text Parse Grammar

/-! ## The nodes of trees -/

/-- A node as a tree makes it: a path has segments, and a variable shows the symbols of the table
around a text. -/
inductive Node.Made (symbols : Symbols) : Node → Prop
  | literal (text : String) : Made symbols (.literal text)
  | variable {path : List String} (hpath : path ≠ []) (calls : List Call) (text : String) :
      Made symbols (.variable path calls (symbols.varStart ++ text ++ symbols.varEnd))
  | group (children : List Node) (calls : List Call) : Made symbols (.group children calls)

theorem Node.mem_partsOf_bodyOf {nodes : List Node} {m : Node}
    (hm : m ∈ Node.partsOf (bodyOf nodes)) :
    m ∈ Node.partsOf nodes ∨ nodes = [] ∧ m = .literal "" := by
  unfold bodyOf at hm
  split at hm
  · next h => exact .inr ⟨List.isEmpty_iff.mp h, List.mem_singleton.mp hm⟩
  · exact .inl hm

theorem Node.mem_partsOf_bodyOf_of_mem {nodes : List Node} {m : Node}
    (hm : m ∈ Node.partsOf nodes) : m ∈ Node.partsOf (bodyOf nodes) := by
  cases nodes with
  | nil => cases hm
  | cons node nodes => exact hm

theorem Grammar.eq_of_mem_literalNodes {text : String} {m : Node}
    (hm : m ∈ Node.partsOf (literalNodes text)) : m = .literal text := by
  unfold literalNodes at hm
  split at hm
  · cases hm
  · exact List.mem_singleton.mp hm

/-- The placeholder of a body without nodes stands for the literal that is all of it. -/
theorem Grammar.Items.exists_literal_of_nodes_eq_nil {symbols : Symbols} {d : Items}
    (h : d.nodes symbols = []) : ∃ t, d.tokens = [t] ∧ t.kind = .literal ∧ t.text = "" := by
  cases d with
  | last text =>
      refine ⟨text.val, rfl, text.property, ?_⟩
      rw [nodes, literalNodes] at h
      split at h
      · next hempty => exact String.isEmpty_iff.mp hempty
      · cases h
  | more text item rest =>
      rw [nodes] at h
      cases (List.append_eq_nil_iff.mp h).2

mutual

theorem Grammar.Item.exists_of_mem_parts {symbols : Symbols} : ∀ (x : Item) {m : Node},
    m ∈ (x.node symbols).parts →
    (∃ t ∈ x.tokens, t.kind = .literal ∧ m = .literal t.text)
      ∨ ∃ y : Item, m = y.node symbols ∧ y.tokens <:+: x.tokens
  | .variable start path filters stop, m, hm => by
      refine .inr ⟨.variable start path filters stop, ?_, List.infix_refl _⟩
      rw [Item.node, Node.parts] at hm
      rw [List.mem_singleton.mp hm, Item.node]
  | .group start body filters stop, m, hm => by
      have hself : (Item.group start body filters stop).node symbols
          = .group (bodyOf (body.nodes symbols)) (filters.map FilterText.call) := by
        rw [Item.node]
      have hbody : body.tokens <:+: (Item.group start body filters stop).tokens :=
        ⟨[start.val], filterTokens filters ++ [stop.val], by simp [Item.tokens]⟩
      rw [hself, Node.parts] at hm
      rcases List.mem_cons.mp hm with rfl | hm
      · exact .inr ⟨_, hself.symm, List.infix_refl _⟩
      · rcases Items.exists_of_mem_partsOf body hm with ⟨t, ht, hliteral⟩ | ⟨y, hy, hpart⟩
        · exact .inl ⟨t, hbody.subset ht, hliteral⟩
        · exact .inr ⟨y, hy, hpart.trans hbody⟩

/-- A node of a tree is a literal of it, or that of an item with some of its tokens in a row. -/
theorem Grammar.Items.exists_of_mem_partsOf {symbols : Symbols} : ∀ (d : Items) {m : Node},
    m ∈ Node.partsOf (bodyOf (d.nodes symbols)) →
    (∃ t ∈ d.tokens, t.kind = .literal ∧ m = .literal t.text)
      ∨ ∃ y : Item, m = y.node symbols ∧ y.tokens <:+: d.tokens
  | d, m, hm => by
      rcases Node.mem_partsOf_bodyOf hm with hm | ⟨hnil, rfl⟩
      · exact Items.exists_of_mem_partsOf_nodes d hm
      · obtain ⟨t, htokens, hkind, htext⟩ := Items.exists_literal_of_nodes_eq_nil hnil
        refine .inl ⟨t, ?_, hkind, by rw [htext]⟩
        rw [htokens]
        exact List.mem_singleton_self t

theorem Grammar.Items.exists_of_mem_partsOf_nodes {symbols : Symbols} : ∀ (d : Items) {m : Node},
    m ∈ Node.partsOf (d.nodes symbols) →
    (∃ t ∈ d.tokens, t.kind = .literal ∧ m = .literal t.text)
      ∨ ∃ y : Item, m = y.node symbols ∧ y.tokens <:+: d.tokens
  | .last text, m, hm => by
      rw [Items.nodes] at hm
      exact .inl ⟨text.val, List.mem_singleton_self _, text.property, eq_of_mem_literalNodes hm⟩
  | .more text item rest, m, hm => by
      have hitem : item.tokens <:+: (Items.more text item rest).tokens :=
        ⟨[text.val], rest.tokens, by simp [Items.tokens]⟩
      have hrest : rest.tokens <:+: (Items.more text item rest).tokens :=
        ⟨text.val :: item.tokens, [], by simp [Items.tokens]⟩
      rw [Items.nodes, Node.partsOf_append, Node.partsOf] at hm
      rcases List.mem_append.mp hm with hm | hm
      · exact .inl ⟨text.val, List.mem_cons_self, text.property, eq_of_mem_literalNodes hm⟩
      · rcases List.mem_append.mp hm with hm | hm
        · rcases Item.exists_of_mem_parts item hm with ⟨t, ht, hliteral⟩ | ⟨y, hy, hpart⟩
          · exact .inl ⟨t, hitem.subset ht, hliteral⟩
          · exact .inr ⟨y, hy, hpart.trans hitem⟩
        · rcases Items.exists_of_mem_partsOf_nodes rest hm with ⟨t, ht, hliteral⟩ | ⟨y, hy, hpart⟩
          · exact .inl ⟨t, hrest.subset ht, hliteral⟩
          · exact .inr ⟨y, hy, hpart.trans hrest⟩

end

theorem Grammar.Item.made {symbols : Symbols} (x : Item) : (x.node symbols).Made symbols := by
  cases x with
  | «variable» start path filters stop =>
      rw [Item.node]
      exact .variable (by simp [pathSegments]) _ _
  | group start body filters stop =>
      rw [Item.node]
      exact .group _ _

theorem Grammar.Items.made_of_mem_partsOf {symbols : Symbols} (d : Items) {m : Node}
    (hm : m ∈ Node.partsOf (bodyOf (d.nodes symbols))) : m.Made symbols := by
  rcases d.exists_of_mem_partsOf hm with ⟨t, -, -, rfl⟩ | ⟨x, rfl, -⟩
  · exact .literal t.text
  · exact x.made

/-! ## Trees of templates -/

namespace Engine

/-- The engine with the default options. -/
def plain : Engine where
  options := { tokens := defaultTokens, throws := false, builtins := true
               symbols := {}, valid := rfl }

variable {e : Engine} {template : String} {nodes : List Node}

/-- The template has nodes. -/
def Compiles (e : Engine) (template : String) : Prop :=
  ∃ nodes, e.compile (.str template) = .ok nodes

theorem compile_eq_ok_iff :
    e.compile (.str template) = .ok nodes
      ↔ parse e.options.symbols (tokenize e.options.symbols template) = .ok nodes := by
  rw [compile, Stencil.compile]
  exact mapError_eq_ok_iff

theorem compile_of_parse_error {failure : ParseFailure}
    (h : parse e.options.symbols (tokenize e.options.symbols template) = .error failure) :
    e.compile (.str template) = .error (.parse failure) := by
  rw [compile, Stencil.compile, h]
  rfl

theorem compiles_iff_parse :
    e.Compiles template
      ↔ ∃ nodes, parse e.options.symbols (tokenize e.options.symbols template) = .ok nodes := by
  simp only [Compiles, compile_eq_ok_iff]

/-- The nodes of a template are those of the tree of its tokens. -/
theorem exists_items_of_compile (h : e.compile (.str template) = .ok nodes) :
    ∃ d, Items.tokens d = tokenize e.options.symbols template
      ∧ nodes = bodyOf (d.nodes e.options.symbols) := by
  rw [compile_eq_ok_iff] at h
  obtain ⟨d, hd⟩ := (parse_ok_iff _ (alternating_tokenize _ template)).mp ⟨nodes, h⟩
  have hparse := parse_tokens e.options.symbols d
  rw [hd, h, Except.ok.injEq] at hparse
  exact ⟨d, hd, hparse⟩

theorem made_of_compile (h : e.compile (.str template) = .ok nodes) {m : Node}
    (hm : m ∈ Node.partsOf nodes) : m.Made e.options.symbols := by
  obtain ⟨d, -, rfl⟩ := exists_items_of_compile h
  exact d.made_of_mem_partsOf hm

theorem malformed_of_compile_error {error : RenderError}
    (h : e.compile (.str template) = .error error) :
    ∃ malformed, error = .parse (.malformed malformed) := by
  have hnot : ¬∃ nodes,
      parse e.options.symbols (tokenize e.options.symbols template) = .ok nodes := by
    rw [← compiles_iff_parse]
    rintro ⟨nodes, hnodes⟩
    cases h.symm.trans hnodes
  obtain ⟨malformed, hparse⟩ := parse_malformed _ (alternating_tokenize _ template) hnot
  cases h.symm.trans (compile_of_parse_error hparse)
  exact ⟨malformed, rfl⟩

end Engine

/-! ## Arguments -/

section Arguments

variable {σ : Type}

/-- All entries are functions. -/
def Registry.Callable (filters : Registry σ) : Prop :=
  ∀ entry ∈ filters, ∃ filter, entry.2 = .function filter

theorem Registry.firstNotCallable?_eq_none_iff {filters : Registry σ} :
    filters.firstNotCallable? = none ↔ filters.Callable := by
  induction filters with
  | nil => simp [firstNotCallable?, Callable]
  | cons entry filters ih =>
      obtain ⟨name, candidate⟩ := entry
      cases candidate with
      | function filter => simpa [firstNotCallable?, Callable] using ih
      | value v => simp [firstNotCallable?, Callable]

namespace Arguments

variable {a : Arguments σ}

/-- The filters are functions by name, or there are none. -/
def Accepted (a : Arguments σ) : Prop :=
  ∃ filters : Registry σ, a.filtersOrEmpty = .registry filters ∧ filters.Callable

/-- The filters by name. -/
def registry (a : Arguments σ) : Registry σ :=
  match a.filtersOrEmpty with
  | .registry filters => filters
  | _ => []

theorem Accepted.check (ha : a.Accepted) (text : String) :
    checkArguments (.str text) a.filtersOrEmpty = .ok (text, a.registry) := by
  obtain ⟨filters, hfilters, hcallable⟩ := ha
  simp only [registry, hfilters, checkArguments,
    Registry.firstNotCallable?_eq_none_iff.mpr hcallable]

end Arguments

/-- Whether the filters are accepted does not depend on the text of the template. -/
theorem checkArguments_str (filters : Filters σ) :
    (∃ error, ∀ text, checkArguments (.str text) filters = .error error)
      ∨ ∃ entries, ∀ text, checkArguments (.str text) filters = .ok (text, entries) := by
  cases filters with
  | registry entries =>
      cases h : entries.firstNotCallable? with
      | none => exact .inr ⟨entries, fun text => by rw [checkArguments, h]⟩
      | some name => exact .inl ⟨.filterNotCallable name, fun text => by rw [checkArguments, h]⟩
  | absent | noMapping => exact .inl ⟨_, fun text => rfl⟩

theorem Arguments.accepted_of_check {a : Arguments σ} {text : String} {entries : Registry σ}
    (h : checkArguments (.str text) a.filtersOrEmpty = .ok (text, entries)) : a.Accepted := by
  cases hfilters : a.filtersOrEmpty with
  | registry filters =>
      refine ⟨filters, hfilters, Registry.firstNotCallable?_eq_none_iff.mp ?_⟩
      cases hfirst : filters.firstNotCallable? with
      | none => rfl
      | some name => rw [hfilters, checkArguments, hfirst] at h; cases h
  | absent | noMapping => rw [hfilters] at h; cases h

end Arguments

/-! ## Strict renders -/

namespace Engine

variable {σ : Type} {e : Engine} {template : String} {nodes : List Node} {a : Arguments σ}

theorem renderStrict_eq {entries : Registry σ}
    (hcheck : ∀ text, checkArguments (.str text) a.filtersOrEmpty = .ok (text, entries))
    (h : e.compile (.str template) = .ok nodes) :
    e.renderStrict (.str template) a = e.evaluate nodes a.contextOrEmpty entries := by
  funext run
  simp only [renderStrict, hcheck, h]

/-- The context and the filters of a render, those of the engine included. -/
def scene (e : Engine) (a : Arguments σ) : Scene σ where
  context := a.contextOrEmpty
  filters := a.registry.merge e.options.builtins

theorem renderStrict_of_compile (ha : a.Accepted) (h : e.compile (.str template) = .ok nodes)
    (run : Run σ) :
    e.renderStrict (.str template) a run
      = { result := ((e.scene a).renderNodes nodes run).1.mapError .evaluation
          run := ((e.scene a).renderNodes nodes run).2 } := by
  rw [renderStrict_eq ha.check h]
  rfl

theorem renderStrict_of_compile_error {error : RenderError} (ha : a.Accepted)
    (h : e.compile (.str template) = .error error) (run : Run σ) :
    e.renderStrict (.str template) a run = { result := .error error, run } := by
  simp only [renderStrict, ha.check, h]

/-- Arguments that are not accepted give one error for every engine and every text. -/
theorem renderStrict_of_not_accepted (ha : ¬a.Accepted) :
    ∃ error, ∀ (e : Engine) (template : String) (run : Run σ),
      e.renderStrict (.str template) a run = { result := .error (.arguments error), run } := by
  rcases checkArguments_str a.filtersOrEmpty with ⟨error, hcheck⟩ | ⟨entries, hcheck⟩
  · exact ⟨error, fun e template run => by simp only [renderStrict, hcheck]⟩
  · exact absurd (Arguments.accepted_of_check (hcheck "")) ha

end Engine

end Stencil

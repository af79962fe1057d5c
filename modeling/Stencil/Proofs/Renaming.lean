import Stencil.Proofs.Compilation

/-!
# Other symbols

The table of symbols is only a renaming: if each symbol of a template is replaced by the symbol that
another table has for its role, then the parser does the same with either template
(`compile_render_renamed`). It reads the kinds and the positions of all tokens but the texts of
literals only (`Token.Alike`), and these are the same in both. So every step of it commutes with the
one thing that differs, the text that a variable shows if it has no value
(`Parse.State.step_alike`): that text has the delimiters of the table.

Rendering does not look at the text that a variable shows unless it has no value.
-/

namespace Stencil

open Text Parse

/-! ## Renamed symbols -/

namespace Symbols

/-- The symbol that another table has for the role of a symbol. Any other cluster is kept. -/
def rename (s₁ s₂ : Symbols) (c : String) : String :=
  match s₁.kind? c with
  | some k => s₂.ofRole k
  | none => c

/-- The text between the delimiters of a variable. -/
def between (s : Symbols) (source : String) : String :=
  let cs := source.toList.drop s.varStart.toList.length
  String.ofList (cs.take (cs.length - s.varEnd.toList.length))

/-- The text that a variable shows with the delimiters of another table. -/
def exchange (s₁ s₂ : Symbols) (source : String) : String :=
  s₂.varStart ++ s₁.between source ++ s₂.varEnd

theorem between_source (s : Symbols) (text : String) :
    s.between (s.varStart ++ text ++ s.varEnd) = text := by
  apply String.toList_injective
  simp [between, String.toList_append, List.append_assoc]

theorem exchange_source (s₁ s₂ : Symbols) (text : String) :
    s₁.exchange s₂ (s₁.varStart ++ text ++ s₁.varEnd) = s₂.varStart ++ text ++ s₂.varEnd := by
  rw [exchange, between_source]

/-- The symbols in the order of their roles. -/
def clusters (s : Symbols) : List String :=
  [s.varStart, s.varEnd, s.groupStart, s.groupEnd, s.filter, s.param]

/-- A text holds the table of its clusters, if these are six, distinct, and none of them blank. -/
theorem ofText_eq_ok_iff {text : String} {s : Symbols} :
    ofText text = .ok s
      ↔ Text.segment text = s.clusters ∧ s.clusters.Nodup
        ∧ ∀ c ∈ s.clusters, Text.isBlankText c.toList = false := by
  have hany (cs : List String) : ¬cs.any (fun c => Text.isBlankText c.toList) = true
      ↔ ∀ c ∈ cs, Text.isBlankText c.toList = false := by
    simp only [List.any_eq_true, not_exists, not_and, Bool.not_eq_true]
  constructor
  · intro h
    unfold ofText at h
    split at h
    · next hsegment =>
        simp only at h
        split at h
        · cases h
        · next hnodup =>
            split at h
            · cases h
            · next hblank =>
                cases h
                exact ⟨hsegment, not_not.mp hnodup, (hany _).mp hblank⟩
    · cases h
  · rintro ⟨hsegment, hnodup, hblank⟩
    rw [← hany] at hblank
    rw [clusters] at hsegment hnodup hblank
    rw [ofText, hsegment]
    simp only
    rw [if_neg (not_not.mpr hnodup), if_neg hblank]

/-- In such a table each symbol is of the kind of its role. -/
theorem kind?_ofRole {text : String} {s : Symbols} (h : ofText text = .ok s) {k : TokenKind}
    (hk : k ≠ .literal) : s.kind? (s.ofRole k) = some k := by
  obtain ⟨-, hnodup, -⟩ := ofText_eq_ok_iff.mp h
  simp only [clusters, List.nodup_cons, List.mem_cons, List.not_mem_nil, or_false, not_or] at hnodup
  obtain ⟨⟨h₁, h₂, h₃, h₄, h₅⟩, ⟨h₆, h₇, h₈, h₉⟩, ⟨h₁₀, h₁₁, h₁₂⟩, ⟨h₁₃, h₁₄⟩, h₁₅, -⟩ := hnodup
  rw [kind?_eq]
  cases k with
  | literal => exact absurd rfl hk
  | varStart | varEnd | groupStart | groupEnd | filter | param =>
      simp [ofRole, Ne.symm, *]

end Symbols

/-! ## Tokens that are alike -/

/-- Two tokens that the parser treats alike: the text of a symbol may differ. -/
structure Token.Alike (t u : Token) : Prop where
  kind : u.kind = t.kind
  position : u.position = t.position
  text : t.kind = .literal → u.text = t.text

theorem Token.Alike.eq_of_literal {t u : Token} (h : t.Alike u) (ht : t.kind = .literal) :
    u = t := by
  obtain ⟨kind, text, position⟩ := t
  obtain ⟨kind', text', position'⟩ := u
  obtain ⟨hkind, hposition, htext⟩ := h
  cases hkind
  cases hposition
  cases htext ht
  rfl

variable {s₁ s₂ : Symbols}

/-- Renamed clusters make the tokens at the same places. -/
theorem alike_tokensFrom {cs : List String} (p : Nat)
    (hkind : ∀ c ∈ cs, s₂.kind? (s₁.rename s₂ c) = s₁.kind? c) :
    List.Forall₂ Token.Alike (tokensFrom s₁ p cs) (tokensFrom s₂ p (cs.map (s₁.rename s₂))) := by
  induction cs generalizing p with
  | nil => simpa using ⟨rfl, rfl, fun _ => rfl⟩
  | cons c cs ih =>
      obtain ⟨hc, hcs⟩ := List.forall_mem_cons.mp hkind
      have htail := ih (p + 1) hcs
      rw [List.map_cons]
      cases h : s₁.kind? c with
      | none =>
          have hname : s₁.rename s₂ c = c := by rw [Symbols.rename, h]
          rw [hname] at hc ⊢
          obtain ⟨text, ts, hts⟩ := tokensFrom_eq_cons s₁ (p + 1) cs
          obtain ⟨text', us, hus⟩ := tokensFrom_eq_cons s₂ (p + 1) (cs.map (s₁.rename s₂))
          rw [hts, hus, List.forall₂_cons] at htail
          rw [tokensFrom_plain h, tokensFrom_plain (hc.trans h), hts, hus]
          have htext : text' = text := htail.1.text rfl
          exact .cons ⟨rfl, rfl, fun _ => by simp only [htext]⟩ htail.2
      | some k =>
          have hk := Symbols.kind_ne_literal h
          rw [tokensFrom_symbol h, tokensFrom_symbol (hc.trans h)]
          exact .cons ⟨rfl, rfl, fun _ => rfl⟩ (.cons ⟨rfl, rfl, fun hlit => absurd hlit hk⟩ htail)

/-! ## The texts that variables show -/

mutual

/-- A node with the texts of its variables changed. -/
def Node.mapSource (f : String → String) : Node → Node
  | .variable path filters source => .variable path filters (f source)
  | .group children filters => .group (Node.mapSources f children) filters
  | .literal text => .literal text
  | .unknown typeName => .unknown typeName

/-- Nodes with the texts of their variables changed. -/
def Node.mapSources (f : String → String) : List Node → List Node
  | [] => []
  | node :: nodes => node.mapSource f :: Node.mapSources f nodes

end

theorem Node.mapSources_append (f : String → String) (xs ys : List Node) :
    Node.mapSources f (xs ++ ys) = Node.mapSources f xs ++ Node.mapSources f ys := by
  induction xs with
  | nil => rfl
  | cons x xs ih => rw [List.cons_append, mapSources, mapSources, ih, List.cons_append]

theorem Node.mapSources_reverse (f : String → String) (nodes : List Node) :
    Node.mapSources f nodes.reverse = (Node.mapSources f nodes).reverse := by
  induction nodes with
  | nil => rfl
  | cons node nodes ih =>
      rw [List.reverse_cons, mapSources_append, ih, mapSources, mapSources, mapSources,
        List.reverse_cons]

theorem Node.mapSources_bodyOf (f : String → String) (nodes : List Node) :
    Node.mapSources f (bodyOf nodes) = bodyOf (Node.mapSources f nodes) := by
  cases nodes <;> rfl

namespace Parse

/-- An open group with the texts of the variables before it changed. -/
def OpenGroup.mapSource (f : String → String) (g : OpenGroup) : OpenGroup :=
  { g with before := Node.mapSources f g.before }

namespace State

/-- A state with the texts of the variables that it has read changed. -/
def mapSource (f : String → String) (s : State) : State where
  outer := s.outer.map (OpenGroup.mapSource f)
  nodes := Node.mapSources f s.nodes
  phase := s.phase

/-- An outcome with the texts of the variables in its state changed. -/
def Step.mapSource (f : String → String) : Step → Step
  | .more s => .more (s.mapSource f)
  | .done => .done
  | .fail stop => .fail stop

end State

/-! ## Steps on tokens that are alike -/

variable {t u : Token} {i : Nat} {f : String → String}

theorem Chain.step_alike (h : t.Alike u) (closing : TokenKind) (i : Nat) (c : Chain) :
    c.step closing i u = c.step closing i t := by
  by_cases ht : t.kind = .literal
  · rw [h.eq_of_literal ht]
  · -- no stage looks at the text of a symbol
    unfold step
    cases c.stage <;> simp [next, notLiteral, ht, h.kind, h.position]

namespace State

theorem closeGroup_mapSource (calls : List Call) (s : State) :
    (s.mapSource f).closeGroup calls = (s.closeGroup calls).mapSource f := by
  obtain ⟨outer, nodes, phase⟩ := s
  cases outer <;>
    simp [closeGroup, mapSource, OpenGroup.mapSource, Node.mapSources, Node.mapSource,
      Node.mapSources_bodyOf, Node.mapSources_reverse]

theorem readFilters_alike (h : t.Alike u) (c : Chain) (s : State) :
    (s.mapSource f).readFilters i u c = (s.readFilters i t c).mapSource f := by
  rw [readFilters, readFilters, Chain.step_alike h]
  cases c.step .groupEnd i t with
  | more c' => rfl
  | close calls => simp only [Step.mapSource, closeGroup_mapSource]
  | fail stop => rfl

theorem readVariable_alike
    (hf : ∀ text, f (s₁.varStart ++ text ++ s₁.varEnd) = s₂.varStart ++ text ++ s₂.varEnd)
    (h : t.Alike u) (path : List String) (text : String) (c : Chain) (s : State) :
    (s.mapSource f).readVariable s₂ i u path text c
      = (s.readVariable s₁ i t path text c).mapSource f := by
  rw [readVariable, readVariable, Chain.step_alike h]
  cases c.step .varEnd i t with
  | more c' => rfl
  | close calls =>
      simp only [Step.mapSource, mapSource, Node.mapSources, Node.mapSource, hf]
  | fail stop => rfl

theorem readPath_alike (h : t.Alike u) (opening : Nat) (s : State) :
    (s.mapSource f).readPath i u opening = (s.readPath i t opening).mapSource f := by
  by_cases ht : t.kind = .literal
  · rw [h.eq_of_literal ht]
    simp only [readPath, ht, ne_eq, not_true_eq_false, if_false]
    split <;> rfl
  · simp [readPath, ht, h.kind, h.position, Chain.notLiteral, Step.mapSource]

theorem readNode_alike (h : t.Alike u) (scope : Scope) (s : State) :
    (s.mapSource f).readNode scope i u = (s.readNode scope i t).mapSource f := by
  obtain ⟨outer, nodes, phase⟩ := s
  have hempty : (outer.map (OpenGroup.mapSource f)).isEmpty = outer.isEmpty := by simp
  simp only [readNode, mapSource, hempty, h.kind]
  split
  · rfl
  · cases ht : t.kind with
    | literal =>
        rw [h.eq_of_literal ht]
        simp only [Step.mapSource]
        split <;> rfl
    | varStart | groupStart => rfl
    | filter | groupEnd =>
        cases outer with
        | nil => rfl
        | cons g outer =>
            exact readFilters_alike h { opening := g.opening } ⟨g :: outer, nodes, phase⟩
    | varEnd | param =>
        simp only [h.position]
        split <;> rfl

/-- A step commutes with the change of the texts that variables show. -/
theorem step_alike
    (hf : ∀ text, f (s₁.varStart ++ text ++ s₁.varEnd) = s₂.varStart ++ text ++ s₂.varEnd)
    (h : t.Alike u) (scope : Scope) (s : State) :
    (s.mapSource f).step s₂ scope i u = (s.step s₁ scope i t).mapSource f := by
  obtain ⟨outer, nodes, phase⟩ := s
  cases phase with
  | nodes => exact readNode_alike h scope _
  | path opening => exact readPath_alike h opening _
  | «variable» path text c => exact readVariable_alike hf h path text c _
  | filters c => exact readFilters_alike h c _

theorem finish_mapSource (cursor : Nat) (s : State) :
    (s.mapSource f).finish cursor
      = (s.finish cursor).map fun r => (Node.mapSources f r.1, r.2) := by
  obtain ⟨outer, nodes, phase⟩ := s
  cases phase with
  | nodes => cases outer with
    | nil => simp [finish, mapSource, Except.map, Node.mapSources_reverse]
    | cons g outer => rfl
  | path | «variable» | filters => rfl

/-- So does a run, and a fault is the same. -/
theorem run_alike
    (hf : ∀ text, f (s₁.varStart ++ text ++ s₁.varEnd) = s₂.varStart ++ text ++ s₂.varEnd)
    {ts us : List Token} (h : List.Forall₂ Token.Alike ts us) (scope : Scope) (s : State)
    (i : Nat) :
    run s₂ scope (s.mapSource f) i us
      = (run s₁ scope s i ts).map fun r => (Node.mapSources f r.1, r.2) := by
  induction h generalizing s i with
  | nil => exact finish_mapSource i s
  | @cons t u ts us htu _ ih =>
      rw [run, run, step_alike hf htu]
      cases s.step s₁ scope i t with
      | more s' => exact ih s' (i + 1)
      | done => simp [Step.mapSource, mapSource, Except.map, Node.mapSources_reverse]
      | fail stop => rfl

end State

theorem whole_alike
    (hf : ∀ text, f (s₁.varStart ++ text ++ s₁.varEnd) = s₂.varStart ++ text ++ s₂.varEnd)
    {ts us : List Token} (h : List.Forall₂ Token.Alike ts us) :
    whole s₂ us = (whole s₁ ts).map fun r => (Node.mapSources f r.1, r.2) := by
  have hrun : nodesAt s₂ .template us 0
      = (nodesAt s₁ .template ts 0).map fun r => (Node.mapSources f r.1, r.2) :=
    State.run_alike hf h .template {} 0
  rw [whole, whole, hrun]
  cases nodesAt s₁ .template ts 0 with
  | error stop => rfl
  | ok r =>
      obtain ⟨nodes, j⟩ := r
      have hget := forall₂_getElem? h j
      simp only [Except.map]
      generalize ts[j]? = t at hget ⊢
      generalize us[j]? = u at hget ⊢
      cases hget with
      | none => simp [Node.mapSources_bodyOf]
      | some htu => simp [htu.kind, htu.position]

end Parse

/-- Streams that are alike have nodes alike, or are malformed in the same way at the same tokens. -/
theorem parse_alike {f : String → String}
    (hf : ∀ text, f (s₁.varStart ++ text ++ s₁.varEnd) = s₂.varStart ++ text ++ s₂.varEnd)
    {ts us : List Token} (h : List.Forall₂ Token.Alike ts us) :
    (∃ nodes, parse s₁ ts = .ok nodes ∧ parse s₂ us = .ok (Node.mapSources f nodes))
      ∨ ∃ fault : ParseFault, parse s₁ ts = .error (fault.failure ts)
          ∧ parse s₂ us = .error (fault.failure us) := by
  have hwhole := whole_alike hf h
  rw [parse, parse]
  cases hts : whole s₁ ts with
  | ok r =>
      rw [hts] at hwhole
      exact .inl ⟨r.1, rfl, by rw [hwhole]; rfl⟩
  | error stop =>
      rw [hts] at hwhole
      exact .inr ⟨stop.fault, rfl, by rw [hwhole]; rfl⟩

/-! ## Rendering -/

section Render

variable {σ : Type} {scene : Scene σ}

/-- Each variable that a render comes to has a value, or reading it fails. -/
def Scene.Resolved (scene : Scene σ) (nodes : List Node) (run : Run σ) : Prop :=
  ∀ path filters source run', scene.Reaches nodes run (.variable path filters source) run' →
    scene.context.resolve? path ≠ .ok none

mutual

theorem Scene.renderNode_mapSource (f : String → String) : ∀ (node : Node) (run : Run σ),
    scene.Resolved [node] run → scene.renderNode (node.mapSource f) run = scene.renderNode node run
  | .literal _, _, _ => rfl
  | .unknown _, _, _ => rfl
  | .variable path filters source, run, hresolved => by
      have hpath := hresolved path filters source run .here
      rw [Node.mapSource, renderNode_variable_run, renderNode_variable_run]
      split
      · rfl
      · next h => exact absurd h hpath
      · rfl
  | .group children filters, run, hresolved => by
      have hchildren : scene.Resolved children run := fun path calls source run' hr =>
        hresolved path calls source run' (.inside hr)
      rw [Node.mapSource, renderNode_group_run, renderNode_group_run,
        renderNodes_mapSources f children run hchildren]

/-- The texts that variables show without a value do not matter if all have one. -/
theorem Scene.renderNodes_mapSources (f : String → String) : ∀ (nodes : List Node) (run : Run σ),
    scene.Resolved nodes run →
      scene.renderNodes (Node.mapSources f nodes) run = scene.renderNodes nodes run
  | [], _, _ => rfl
  | node :: nodes, run, hresolved => by
      have hnode : scene.Resolved [node] run := fun path calls source run' hr =>
        hresolved path calls source run' (hr.of_singleton nodes)
      rw [Node.mapSources, renderNodes_cons_run, renderNodes_cons_run,
        renderNode_mapSource f node run hnode]
      rcases hrun : scene.renderNode node run with ⟨failure | text, run₁⟩
      · rfl
      · have hnodes : scene.Resolved nodes run₁ := fun path calls source run' hr =>
          hresolved path calls source run' (.later hrun hr)
        simp only [renderNodes_mapSources f nodes run₁ hnodes]

end

end Render

/-! ## Engines -/

theorem alike_tokenize {text : String} (hvalid : Symbols.ofText text = .ok s₂) {t₁ t₂ : String}
    (hfree : ∀ c ∈ Text.segment t₁, s₁.kind? c = none → s₂.kind? c = none)
    (hseg : Text.segment t₂ = (Text.segment t₁).map (s₁.rename s₂)) :
    List.Forall₂ Token.Alike (tokenize s₁ t₁) (tokenize s₂ t₂) := by
  rw [tokenize_eq, tokenize_eq, hseg]
  refine alike_tokensFrom 0 fun c hc => ?_
  cases h : s₁.kind? c with
  | none =>
      rw [Symbols.rename, h]
      exact hfree c hc h
  | some k =>
      rw [Symbols.rename, h]
      exact Symbols.kind?_ofRole hvalid (Symbols.kind_ne_literal h)

namespace Engine

variable {e₁ e₂ : Engine} {t₁ t₂ : String}

/-- Either template has nodes, and they differ in the texts that variables show only; or neither has,
and what is wrong is the same. -/
theorem compile_renamed
    (hfree : ∀ c ∈ Text.segment t₁,
      e₁.options.symbols.kind? c = none → e₂.options.symbols.kind? c = none)
    (hseg : Text.segment t₂
      = (Text.segment t₁).map (e₁.options.symbols.rename e₂.options.symbols)) :
    (∃ nodes, e₁.compile (.str t₁) = .ok nodes
        ∧ e₂.compile (.str t₂)
          = .ok (Node.mapSources (e₁.options.symbols.exchange e₂.options.symbols) nodes))
      ∨ ∃ cause fragment₁ fragment₂,
        e₁.compile (.str t₁) = .error (.parse (.malformed ⟨cause, fragment₁⟩))
          ∧ e₂.compile (.str t₂) = .error (.parse (.malformed ⟨cause, fragment₂⟩)) := by
  have halike := alike_tokenize e₂.options.valid hfree hseg
  rcases parse_alike (Symbols.exchange_source _ _) halike with ⟨nodes, h₁, h₂⟩ | ⟨fault, h₁, h₂⟩
  · exact .inl ⟨nodes, compile_eq_ok_iff.mpr h₁, compile_eq_ok_iff.mpr h₂⟩
  · have herror₁ := compile_of_parse_error h₁
    have herror₂ := compile_of_parse_error h₂
    obtain ⟨malformed, hmalformed⟩ := malformed_of_compile_error herror₁
    cases fault with
    | pastEnd => cases hmalformed
    | malformed cause span => exact .inr ⟨cause, _, _, herror₁, herror₂⟩

end Engine

/--
The table of symbols is only a renaming. Let the clusters of a template be `cs`, none of which is a
symbol of the second table alone, and let these clusters with each symbol renamed be the clusters of
another template. Then the second engine has nodes for the other template just if the first has nodes
for the one; the nodes are the same but for the delimiters of what variables show; without nodes the
same is wrong with both, at the same position; and if all variables that the render comes to have a
value, then both render alike, with any filters.
-/
theorem compile_render_renamed (e₁ e₂ : Engine) (cs : List String)
    (hcs : Text.segment (String.join cs) = cs)
    (hfree : ∀ c ∈ cs, e₁.options.symbols.kind? c = none → e₂.options.symbols.kind? c = none)
    (hrenamed : Text.segment (String.join (cs.map (e₁.options.symbols.rename e₂.options.symbols)))
      = cs.map (e₁.options.symbols.rename e₂.options.symbols)) :
    let t₁ := String.join cs
    let t₂ := String.join (cs.map (e₁.options.symbols.rename e₂.options.symbols))
    (e₂.Compiles t₂ ↔ e₁.Compiles t₁)
      ∧ (∀ nodes, e₁.compile (.str t₁) = .ok nodes →
          e₂.compile (.str t₂)
            = .ok (Node.mapSources (e₁.options.symbols.exchange e₂.options.symbols) nodes))
      ∧ (¬e₁.Compiles t₁ → ∃ cause fragment₁ fragment₂,
          e₁.compile (.str t₁) = .error (.parse (.malformed ⟨cause, fragment₁⟩))
            ∧ e₂.compile (.str t₂) = .error (.parse (.malformed ⟨cause, fragment₂⟩)))
      ∧ ∀ {σ : Type} (a : Arguments σ) (run : Run σ),
          e₁.options.builtins = e₂.options.builtins → e₁.Compiles t₁ →
          (∀ nodes, e₁.compile (.str t₁) = .ok nodes → (e₁.scene a).Resolved nodes run) →
          e₂.renderStrict (.str t₂) a run = e₁.renderStrict (.str t₁) a run := by
  intro t₁ t₂
  have hseg : Text.segment t₂
      = (Text.segment t₁).map (e₁.options.symbols.rename e₂.options.symbols) := by
    rw [hcs]
    exact hrenamed
  rw [← hcs] at hfree
  have hcases := Engine.compile_renamed hfree hseg
  refine ⟨⟨?_, ?_⟩, ?_, ?_, ?_⟩
  · rintro ⟨nodes₂, h₂⟩
    rcases hcases with ⟨nodes, h₁, -⟩ | ⟨cause, _, _, -, herror⟩
    · exact ⟨nodes, h₁⟩
    · cases h₂.symm.trans herror
  · rintro ⟨nodes₁, h₁⟩
    rcases hcases with ⟨nodes, -, h₂⟩ | ⟨cause, _, _, herror, -⟩
    · exact ⟨_, h₂⟩
    · cases h₁.symm.trans herror
  · intro nodes₁ h₁
    rcases hcases with ⟨nodes, h, h₂⟩ | ⟨cause, _, _, herror, -⟩
    · cases h₁.symm.trans h
      exact h₂
    · cases h₁.symm.trans herror
  · intro hnot
    exact hcases.resolve_left fun ⟨nodes, h, _⟩ => hnot ⟨nodes, h⟩
  · intro σ a run hbuiltins hcompiles hresolved
    obtain ⟨nodes, h₁, h₂⟩ := hcases.resolve_right fun ⟨cause, _, _, herror, _⟩ => by
      obtain ⟨nodes, h⟩ := hcompiles
      cases h.symm.trans herror
    by_cases ha : a.Accepted
    · have hscene : e₂.scene a = e₁.scene a := by rw [Engine.scene, Engine.scene, hbuiltins]
      rw [Engine.renderStrict_of_compile ha h₁, Engine.renderStrict_of_compile ha h₂, hscene,
        Scene.renderNodes_mapSources _ nodes run (hresolved nodes h₁)]
    · obtain ⟨error, herror⟩ := Engine.renderStrict_of_not_accepted ha
      rw [herror, herror]

/-- The engine with symbols of its own and otherwise the default options. -/
def Engine.angled : Engine where
  options := { tokens := "<>()!:", throws := false, builtins := true
               symbols := ⟨"<", ">", "(", ")", "!", ":"⟩, valid := rfl }

/-- A group around a variable, written with two tables. -/
theorem compile_render_renamed_angles :
    let s₁ := Engine.plain.options.symbols
    let s₂ := Engine.angled.options.symbols
    let cs := ["[", "\x7b", "a", "\x7d", ".", "|", "u", "p", "p", "e", "r", "]"]
    Text.segment (String.join cs) = cs ∧ (∀ c ∈ cs, s₁.kind? c = none → s₂.kind? c = none)
      ∧ Text.segment (String.join (cs.map (s₁.rename s₂))) = cs.map (s₁.rename s₂)
      ∧ Engine.plain.Compiles "[\x7ba\x7d.|upper]"
      ∧ (Engine.angled.Compiles "(<a>.!upper)" ↔ Engine.plain.Compiles "[\x7ba\x7d.|upper]")
      ∧ ∀ run : Run Unit,
        Engine.angled.renderStrict (.str "(<a>.!upper)") ⟨.dict [("a", .str "x")], .absent⟩ run
          = Engine.plain.renderStrict (.str "[\x7ba\x7d.|upper]")
              ⟨.dict [("a", .str "x")], .absent⟩ run := by
  intro s₁ s₂ cs
  have hcs : Text.segment (String.join cs) = cs := by decide
  have hfree : ∀ c ∈ cs, s₁.kind? c = none → s₂.kind? c = none := by decide
  have hrenamed : Text.segment (String.join (cs.map (s₁.rename s₂))) = cs.map (s₁.rename s₂) := by
    decide
  have htext : String.join (cs.map (s₁.rename s₂)) = "(<a>.!upper)" := by decide
  obtain ⟨hiff, -, -, hrender⟩ :=
    compile_render_renamed Engine.plain Engine.angled cs hcs hfree hrenamed
  rw [htext] at hiff hrender
  have hnodes : Engine.plain.compile (.str "[\x7ba\x7d.|upper]") = .ok
      [.group [.variable ["a"] [] "\x7ba\x7d", .literal "."] [⟨"upper", none⟩]] := rfl
  refine ⟨hcs, hfree, hrenamed, ⟨_, hnodes⟩, hiff, fun run => ?_⟩
  refine hrender _ run rfl ⟨_, hnodes⟩ ?_
  intro nodes h path filters source run' hr
  cases hnodes.symm.trans h
  have hmem := hr.mem_partsOf
  simp only [Node.partsOf, Node.parts, List.append_nil, List.mem_cons, List.mem_append,
    List.not_mem_nil, or_false, Node.variable.injEq, reduceCtorEq, false_or] at hmem
  rw [hmem.1]
  intro hmissing
  cases hmissing

end Stencil

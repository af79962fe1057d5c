import Stencil.Proofs.Modes
import Stencil.Proofs.NormalForm
import Stencil.Proofs.Unresolved
import Stencil.Proofs.Wrapping

/-!
# Sources of variables

A variable without a value shows its source, and the source is a template with that one variable,
less its filters. So what was shown for want of a value can be rendered again
(`source_renders_again`).

A source puts the closing symbol right behind the path, where the template may have the symbol of a
filter. Whatever the path ends in, the closing symbol is a cluster of its own there: the rules for
boundaries see the next character by its class alone, and both default symbols have the same class
(`segment_concat_of_breakClass`).
-/

namespace Stencil

open Text Parse Grammar

/-! ## What a source compiles to -/

/-- A path between the symbols of a variable is that variable, if the closing symbol keeps apart from
the clusters of the path. -/
theorem Engine.compile_of_path {e : Engine} (path : PathText) {cs : List String}
    (htext : String.join cs = path.token.val.text)
    (hplain : ∀ c ∈ cs, e.options.symbols.kind? c = none) {source : String}
    (hsource : Text.segment source
      = e.options.symbols.varStart :: (cs ++ [e.options.symbols.varEnd])) :
    e.compile (.str source)
      = .ok [.variable ((pathSegments path.token.val.text).map String.ofList) [] source] := by
  let symbols := e.options.symbols
  have hstart : symbols.kind? symbols.varStart = some .varStart :=
    Symbols.kind?_ofRole e.options.valid (k := .varStart) (by decide)
  have hstop : symbols.kind? symbols.varEnd = some .varEnd :=
    Symbols.kind?_ofRole e.options.valid (k := .varEnd) (by decide)
  obtain ⟨q, htokens⟩ := (startsWithSymbol_cons hstop []).tokensFrom_append 1 cs
  let alone : PathText := ⟨⟨⟨.literal, path.token.val.text, 1⟩, rfl⟩, path.valid⟩
  let tree : Items := .more ⟨⟨.literal, "", 0⟩, rfl⟩
    (.variable ⟨⟨.varStart, symbols.varStart, 0⟩, rfl⟩ alone []
      ⟨⟨.varEnd, symbols.varEnd, q⟩, rfl⟩)
    (.last ⟨⟨.literal, "", (q + 1 : Nat)⟩, rfl⟩)
  have htree : tree.tokens = tokensFrom symbols 0 (Text.segment source) := by
    rw [hsource, tokensFrom_symbol hstart, htokens, tokensFrom_of_plain 1 hplain, htext,
      scan_symbol hstop, tokensFrom_nil]
    rfl
  have hjoin : source = symbols.varStart ++ path.token.val.text ++ symbols.varEnd := by
    rw [← join_segment source, hsource]
    simp [htext, symbols, String.append_assoc]
  rw [compile_of_tokens htree, hjoin]
  rfl

/-- With the default symbols, the clusters of a path stay apart from the closing symbol of the variable
if they stay apart from what is behind them in the template, perhaps the symbol of a filter. -/
theorem segment_closed {text after : String} {cs : List String}
    (hafter : after = "|" ∨ after = "\x7d") (h : "\x7b" :: (cs ++ [after]) <:+: Text.segment text) :
    Text.segment (String.join ("\x7b" :: (cs ++ ["\x7d"]))) = "\x7b" :: (cs ++ ["\x7d"]) := by
  have hopening : String.join ("\x7b" :: cs) ≠ "" := by
    rw [String.join_cons]
    intro hempty
    have hlist := congrArg String.toList hempty
    simp at hlist
  rw [← List.cons_append] at h ⊢
  rcases hafter with rfl | rfl
  · have hclass : breakClass '|' = breakClass '\x7d' := by decide
    exact segment_concat_of_breakClass h hopening rfl rfl hclass
  · exact segment_join_of_infix h

/-- The source of a variable of a template is that variable without its filters. -/
theorem Engine.compile_source {e : Engine} (hsymbols : e.options.symbols = {}) {template : String}
    {nodes : List Node} (h : e.compile (.str template) = .ok nodes) {path : List String}
    {calls : List Call} {source : String} (hv : .variable path calls source ∈ Node.partsOf nodes) :
    e.compile (.str source) = .ok [.variable path [] source] := by
  obtain ⟨d, hd, rfl⟩ := exists_items_of_compile h
  rcases d.exists_of_mem_partsOf hv with ⟨t, -, -, hnode⟩ | ⟨x, hnode, hpart⟩
  · cases hnode
  cases x with
  | group start body filters stop =>
      rw [Item.node] at hnode
      cases hnode
  | «variable» start text filters stop =>
      rw [Item.node, Node.variable.injEq] at hnode
      obtain ⟨rfl, -, hsource⟩ := hnode
      have hinside : start.val :: ([text.token.val] ++ (filterTokens filters ++ [stop.val]))
          <:+: tokenize e.options.symbols template := by
        rw [Item.tokens, hd] at hpart
        exact hpart
      obtain ⟨clusters, q, after, hafter, hclusters, -, htext⟩ :=
        exists_clusters_inside (by decide) (by decide) hinside
      have hjoin : String.join clusters = text.token.val.text := by
        rw [← sourceOf_tokensFrom e.options.symbols q, htext]
        simp [sourceOf]
      have hplain := plain_of_tokensFrom htext text.token.property
      rw [hsymbols] at hafter hclusters
      refine compile_of_path text hjoin hplain ?_
      -- the closing symbol stands right behind the path, also if a filter follows in the template
      have hshown : source = String.join ("\x7b" :: (clusters ++ ["\x7d"])) := by
        rw [hsource, hsymbols, ← hjoin]
        simp [String.append_assoc]
      rw [hshown, hsymbols]
      exact segment_closed hafter hclusters

/-! ## Rendering again -/

section Rendering

variable {σ : Type} {e : Engine} {a : Arguments σ}

/-- A variable without filters shows its source or its value. -/
theorem Scene.renderNode_unfiltered {scene : Scene σ} {path : List String} {found : Option Value}
    (h : scene.context.resolve? path = .ok found) (source : String) (run : Run σ) :
    scene.renderNode (.variable path [] source) run
      = (found.elim (.ok source) fun value => value.shown.mapError .fault, run) := by
  rw [renderNode_variable_run, h]
  cases found with
  | none => rfl
  | some value => exact showFiltered_run scene value [] run

theorem Engine.renderStrict_unfiltered {template source : String} {path : List String}
    {found : Option Value} (ha : a.Accepted)
    (h : e.compile (.str template) = .ok [.variable path [] source])
    (hfound : a.contextOrEmpty.resolve? path = .ok found) (run : Run σ) :
    e.renderStrict (.str template) a run
      = { result := found.elim (.ok source) fun value =>
            value.shown.mapError fun cause => .evaluation (.fault cause.outside)
          run } := by
  have hscene : (e.scene a).context.resolve? path = .ok found := hfound
  rw [renderStrict_of_compile ha h, Scene.renderNodes_singleton_run,
    Scene.renderNode_unfiltered hscene]
  cases found with
  | none => rfl
  | some value =>
      cases hshown : value.shown <;> simp [hshown, Except.mapError, Failure.outside_fault]

end Rendering

/--
With the default symbols, the source of a variable of a template is a template with just this
variable, without filters and with the same source. So the source, which a variable shows when its
path has no value, renders as itself as long as there is no value, and as the value when there is
one.
-/
theorem source_renders_again (e : Engine) (hsymbols : e.options.symbols = {}) (template : String)
    (nodes : List Node) (h : e.compile (.str template) = .ok nodes) (path : List String)
    (calls : List Call) (source : String)
    (hv : .variable path calls source ∈ Node.partsOf nodes) :
    e.compile (.str source) = .ok [.variable path [] source]
      ∧ ∀ {σ : Type} (a : Arguments σ), a.Accepted → ∀ (flags : Flags) (run : Run σ),
        (a.contextOrEmpty.resolve? path = .ok none →
            (e.scene a).renderNode (.variable path calls source) run = (.ok source, run)
              ∧ e.renderStrict (.str source) a run = { result := .ok source, run }
              ∧ e.render flags (.str source) a run = { result := .ok source, run })
        ∧ ∀ value, a.contextOrEmpty.resolve? path = .ok (some value) →
            e.renderStrict (.str source) a run
                = { result := value.shown.mapError fun cause =>
                      .evaluation (.fault cause.outside)
                    run }
              ∧ ∀ text, value.shown = .ok text →
                  e.render flags (.str source) a run = { result := .ok text, run } := by
  have hsource := Engine.compile_source hsymbols h hv
  refine ⟨hsource, fun a ha flags run => ⟨fun hmissing => ?_, fun value hfound => ?_⟩⟩
  · have hstrict := Engine.renderStrict_unfiltered ha hsource hmissing run
    refine ⟨?_, hstrict, Engine.render_of_ok hstrict flags⟩
    have hscene : (e.scene a).context.resolve? path = .ok none := hmissing
    rw [Scene.renderNode_unresolved calls source hscene]
    rfl
  · have hstrict := Engine.renderStrict_unfiltered ha hsource hfound run
    refine ⟨hstrict, fun text htext => Engine.render_of_ok ?_ flags⟩
    rw [hstrict, Option.elim_some, htext]
    rfl

/-- A flag in front of the symbol of a filter, in a group. -/
theorem source_renders_again_flag :
    ∃ a : Arguments Unit, a.Accepted
      ∧ (Node.variable ["a", "🇩🇪"] [⟨"upper", none⟩] "\x7ba.🇩🇪\x7d")
        ∈ Node.partsOf [.group [.literal "x",
            .variable ["a", "🇩🇪"] [⟨"upper", none⟩] "\x7ba.🇩🇪\x7d"] []]
      ∧ a.contextOrEmpty.resolve? ["a", "🇩🇪"] = .ok (some (.bool true))
      ∧ ∀ (flags : Flags) (run : Run Unit),
        Engine.plain.render flags (.str "\x7ba.🇩🇪\x7d") a run = { result := .ok "true", run } := by
  let a : Arguments Unit :=
    ⟨.dict [("a", .dict [("🇩🇪", .bool true)])], .absent⟩
  have ha : a.Accepted := ⟨[], rfl, by simp [Registry.Callable]⟩
  have hcompile : Engine.plain.compile (.str "[x\x7ba.🇩🇪|upper\x7d]")
      = .ok [.group [.literal "x",
          .variable ["a", "🇩🇪"] [⟨"upper", none⟩] "\x7ba.🇩🇪\x7d"] []] := rfl
  have hmem : (Node.variable ["a", "🇩🇪"] [⟨"upper", none⟩] "\x7ba.🇩🇪\x7d")
      ∈ Node.partsOf [.group [.literal "x",
          .variable ["a", "🇩🇪"] [⟨"upper", none⟩] "\x7ba.🇩🇪\x7d"] []] := by
    simp [Node.partsOf, Node.parts]
  have hfound : a.contextOrEmpty.resolve? ["a", "🇩🇪"] = .ok (some (.bool true)) := rfl
  obtain ⟨-, hagain⟩ := source_renders_again Engine.plain rfl _ _ hcompile _ _ _ hmem
  refine ⟨a, ha, hmem, hfound, fun flags run => ?_⟩
  exact ((hagain a ha flags run).2 (.bool true) hfound).2 "true" rfl

end Stencil

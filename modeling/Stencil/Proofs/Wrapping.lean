import Stencil.Proofs.Boundaries
import Stencil.Proofs.Concatenation
import Stencil.Proofs.Escapes
import Stencil.Proofs.Renaming

/-!
# Templates in groups

A template that is put in a group, perhaps with filters behind it, keeps its nodes: what is read at the
top level is read in the same way one level down (`ReadsAs.group`). So the group renders as the
template, and what the template shows is filtered (`renderStrict_wrapped`). Groups without filters
change nothing, however many there are.

The parser is followed on clusters and not on texts, because a body that is inside a group is no
template of its own. The tokens of a body have other positions there, but positions only show in
errors.
-/

namespace Stencil

open Text Parse Grammar

/-! ## Symbols by themselves -/

theorem Symbols.segment_ofRole {tokens : String} {s : Symbols} (h : ofText tokens = .ok s)
    {k : TokenKind} (hk : k ≠ .literal) : Text.segment (s.ofRole k) = [s.ofRole k] := by
  obtain ⟨hsegment, -, -⟩ := ofText_eq_ok_iff.mp h
  have hmem : s.ofRole k ∈ s.clusters := by
    cases k with
    | literal => exact absurd rfl hk
    | varStart | varEnd | groupStart | groupEnd | filter | param => simp [ofRole, clusters]
  exact segment_of_mem_segment (hsegment ▸ hmem)

/-! ## Texts of filter calls -/

/-- The pieces keep their clusters when they are put together. -/
def KeepsClusters (pieces : List String) : Prop :=
  Text.segment (String.join pieces) = pieces.flatMap Text.segment

instance (pieces : List String) : Decidable (KeepsClusters pieces) :=
  inferInstanceAs (Decidable (Text.segment (String.join pieces) = pieces.flatMap Text.segment))

/-- A text without a symbol. -/
structure PlainText (symbols : Symbols) where
  text : String
  plain : ∀ c ∈ Text.segment text, symbols.kind? c = none

/-- The text of a parameter. -/
structure ValueText (symbols : Symbols) extends PlainText symbols where
  param : Param
  valid : Param.ofText text = .ok param

/-- The pieces of a filter call: the symbol of a filter, a name and, perhaps, the symbol of a parameter
and its value. -/
def callPieces (symbols : Symbols) (name : String) (value : Option String) : List String :=
  symbols.filter :: name :: value.elim [] fun text => [symbols.param, text]

/-- The text of a filter call, with a name that is not blank. -/
structure CallText (symbols : Symbols) where
  name : PlainText symbols
  notBlank : strip name.text.toList ≠ []
  value : Option (ValueText symbols)
  keeps : KeepsClusters (callPieces symbols name.text (value.map (·.text)))

variable {symbols : Symbols}

namespace CallText

def text (k : CallText symbols) : String :=
  String.join (callPieces symbols k.name.text (k.value.map (·.text)))

/-- The filter call that is written. -/
def call (k : CallText symbols) : Call where
  name := String.ofList (strip k.name.text.toList)
  param := k.value.map (·.param)

end CallText

/-! ## Tokens in front of a symbol -/

/-- Clusters that begin with a symbol, or none. -/
def StartsWithSymbol (symbols : Symbols) (cs : List String) : Prop :=
  ∀ p, (scan symbols p cs).1 = []

theorem scan_symbol {c : String} {k : TokenKind} (h : symbols.kind? c = some k) (p : Nat)
    (cs : List String) :
    scan symbols p (c :: cs) = ([], ⟨k, c, p⟩ :: tokensFrom symbols (p + 1) cs) := by
  rw [scan, h]
  rfl

theorem startsWithSymbol_cons {c : String} {k : TokenKind} (h : symbols.kind? c = some k)
    (cs : List String) : StartsWithSymbol symbols (c :: cs) := fun p => by
  rw [scan_symbol h]

theorem fuse_empty : ∀ {ts : List Token}, ts ≠ [] → ∀ (p : Int) (us : List Token),
    fuse ts (⟨.literal, "", p⟩ :: us) = ts ++ us
  | [t], _, p, us => by simp [fuse]
  | t :: t' :: ts, _, p, us => by
      rw [fuse_cons t (List.cons_ne_nil _ _), fuse_empty (List.cons_ne_nil _ _)]
      rfl

/-- In front of a symbol the tokens of clusters are those that they have alone. -/
theorem StartsWithSymbol.tokensFrom_append {ds : List String}
    (h : StartsWithSymbol symbols ds) (p : Nat) (cs : List String) :
    ∃ q, tokensFrom symbols p (cs ++ ds) = tokensFrom symbols p cs ++ (scan symbols q ds).2 := by
  refine ⟨p + cs.length, ?_⟩
  have hds : tokensFrom symbols (p + cs.length) ds
      = ⟨.literal, "", (p + cs.length : Nat)⟩ :: (scan symbols (p + cs.length) ds).2 := by
    rw [tokensFrom, h]
    rfl
  rw [Stencil.tokensFrom_append, hds, fuse_empty (tokensFrom_ne_nil p cs)]

theorem PlainText.tokensFrom_eq (t : PlainText symbols) (p : Nat) :
    tokensFrom symbols p (Text.segment t.text) = [⟨.literal, t.text, p⟩] := by
  rw [tokensFrom_of_plain p t.plain, join_segment]

/-! ## Nodes of clusters -/

/-- The clusters have these nodes, wherever they stand. -/
def ReadsAs (symbols : Symbols) (cs : List String) (nodes : List Node) : Prop :=
  ∀ p, parse symbols (tokensFrom symbols p cs) = .ok nodes

theorem ReadsAs.exists_items {cs : List String} {nodes : List Node} (h : ReadsAs symbols cs nodes)
    (p : Nat) :
    ∃ d, Items.tokens d = tokensFrom symbols p cs ∧ bodyOf (d.nodes symbols) = nodes := by
  obtain ⟨d, hd⟩ := (parse_ok_iff symbols (alternating_tokensFrom symbols p cs)).mp ⟨nodes, h p⟩
  have hparse := parse_tokens symbols d
  rw [hd, h p, Except.ok.injEq] at hparse
  exact ⟨d, hd, hparse.symm⟩

/-! ## Groups around clusters -/

section Tokens

variable {table : String} (hvalid : Symbols.ofText table = .ok symbols)
include hvalid

theorem CallText.segment_text (k : CallText symbols) :
    Text.segment k.text
      = symbols.filter :: (Text.segment k.name.text
          ++ k.value.elim [] fun v => symbols.param :: Text.segment v.text) := by
  have hfilter : Text.segment symbols.filter = [symbols.filter] :=
    Symbols.segment_ofRole hvalid (k := .filter) (by decide)
  have hparam : Text.segment symbols.param = [symbols.param] :=
    Symbols.segment_ofRole hvalid (k := .param) (by decide)
  obtain ⟨name, notBlank, value, keeps⟩ := k
  refine keeps.trans ?_
  cases value <;> simp [callPieces, hfilter, hparam]

/-- A filter call in front of a symbol makes the tokens of a filter. -/
theorem CallText.exists_filter (k : CallText symbols) {cs : List String}
    (hcs : StartsWithSymbol symbols cs) (p : Nat) :
    ∃ (f : FilterText) (q : Nat),
      (scan symbols p (Text.segment k.text ++ cs)).2 = f.tokens ++ (scan symbols q cs).2
        ∧ f.call = k.call := by
  have hfilter : symbols.kind? symbols.filter = some .filter :=
    Symbols.kind?_ofRole hvalid (k := .filter) (by decide)
  have hparam : symbols.kind? symbols.param = some .param :=
    Symbols.kind?_ofRole hvalid (k := .param) (by decide)
  rw [k.segment_text hvalid]
  obtain ⟨name, notBlank, value, keeps⟩ := k
  cases value with
  | none =>
      obtain ⟨q, hname⟩ := hcs.tokensFrom_append (p + 1) (Text.segment name.text)
      refine ⟨⟨⟨⟨.filter, symbols.filter, p⟩, rfl⟩,
        ⟨⟨⟨.literal, name.text, (p + 1 : Nat)⟩, rfl⟩, notBlank⟩, none⟩, q, ?_, rfl⟩
      simp only [Option.elim_none, List.append_nil, List.cons_append]
      rw [scan_symbol hfilter, hname, name.tokensFrom_eq]
      rfl
  | some v =>
      obtain ⟨i, hname⟩ := (startsWithSymbol_cons hparam (Text.segment v.text ++ cs)).tokensFrom_append
        (p + 1) (Text.segment name.text)
      obtain ⟨q, hvalue⟩ := hcs.tokensFrom_append (i + 1) (Text.segment v.text)
      refine ⟨⟨⟨⟨.filter, symbols.filter, p⟩, rfl⟩,
        ⟨⟨⟨.literal, name.text, (p + 1 : Nat)⟩, rfl⟩, notBlank⟩,
        some ⟨⟨⟨.param, symbols.param, i⟩, rfl⟩,
          ⟨⟨.literal, v.text, (i + 1 : Nat)⟩, rfl⟩, v.param, v.valid⟩⟩, q, ?_, rfl⟩
      simp only [Option.elim_some, List.cons_append, List.append_assoc]
      rw [scan_symbol hfilter, hname, name.tokensFrom_eq, scan_symbol hparam, hvalue,
        v.tokensFrom_eq]
      rfl

theorem startsWithSymbol_calls {cs : List String} (hcs : StartsWithSymbol symbols cs)
    (ks : List (CallText symbols)) :
    StartsWithSymbol symbols (ks.flatMap (fun k => Text.segment k.text) ++ cs) := by
  cases ks with
  | nil => exact hcs
  | cons k ks =>
      rw [List.flatMap_cons, k.segment_text hvalid, List.cons_append, List.cons_append]
      exact startsWithSymbol_cons (Symbols.kind?_ofRole hvalid (k := .filter) (by decide)) _

/-- The same for several calls. -/
theorem exists_filters {cs : List String} (hcs : StartsWithSymbol symbols cs) :
    ∀ (ks : List (CallText symbols)) (p : Nat), ∃ (fs : List FilterText) (q : Nat),
      (scan symbols p (ks.flatMap (fun k => Text.segment k.text) ++ cs)).2
          = filterTokens fs ++ (scan symbols q cs).2
        ∧ fs.map FilterText.call = ks.map CallText.call
  | [], p => ⟨[], p, rfl, rfl⟩
  | k :: ks, p => by
      obtain ⟨f, i, hf, hcall⟩ :=
        k.exists_filter hvalid (startsWithSymbol_calls hvalid hcs ks) p
      obtain ⟨fs, q, hfs, hcalls⟩ := exists_filters hcs ks i
      refine ⟨f :: fs, q, ?_, by rw [List.map_cons, List.map_cons, hcall, hcalls]⟩
      rw [List.flatMap_cons, List.append_assoc, hf, hfs, filterTokens_cons, List.append_assoc]

/-- In a group the clusters have the same nodes, and the calls behind them are those of the group. -/
theorem ReadsAs.group {cs : List String} {nodes : List Node} (h : ReadsAs symbols cs nodes)
    (ks : List (CallText symbols)) :
    ReadsAs symbols
      (symbols.groupStart :: (cs ++ (ks.flatMap (fun k => Text.segment k.text)
        ++ [symbols.groupEnd])))
      [.group nodes (ks.map CallText.call)] := by
  intro p
  have hstart : symbols.kind? symbols.groupStart = some .groupStart :=
    Symbols.kind?_ofRole hvalid (k := .groupStart) (by decide)
  have hstop : symbols.kind? symbols.groupEnd = some .groupEnd :=
    Symbols.kind?_ofRole hvalid (k := .groupEnd) (by decide)
  have hend := startsWithSymbol_cons hstop []
  obtain ⟨d, hd, hnodes⟩ := h.exists_items (p + 1)
  obtain ⟨i, hbody⟩ := (startsWithSymbol_calls hvalid hend ks).tokensFrom_append (p + 1) cs
  obtain ⟨fs, q, hfs, hcalls⟩ := exists_filters hvalid hend ks i
  have htokens : tokensFrom symbols p
      (symbols.groupStart :: (cs ++ (ks.flatMap (fun k => Text.segment k.text)
        ++ [symbols.groupEnd])))
      = (Items.more ⟨⟨.literal, "", p⟩, rfl⟩
          (.group ⟨⟨.groupStart, symbols.groupStart, p⟩, rfl⟩ d fs
            ⟨⟨.groupEnd, symbols.groupEnd, q⟩, rfl⟩)
          (.last ⟨⟨.literal, "", (q + 1 : Nat)⟩, rfl⟩)).tokens := by
    rw [tokensFrom_symbol hstart, hbody, hfs, ← hd, scan_symbol hstop, tokensFrom_nil]
    simp [Items.tokens, Item.tokens]
  rw [htokens, parse_tokens, Items.nodes, Items.nodes, Item.node, hnodes, hcalls]
  rfl

end Tokens

/-! ## Rendering groups -/

section Rendering

variable {σ : Type}

theorem Failure.outside_of_isError {failure : Failure} (h : failure.IsError) :
    failure.outside = failure := by
  cases failure with
  | fault cause => exact absurd rfl (h cause)
  | unknownFilter | filterFailed | readFailed => rfl

theorem Failure.outside_outside (failure : Failure) :
    failure.outside.outside = failure.outside := by
  cases failure with
  | fault cause => rw [outside_fault, outside_fault, Fault.outside_outside]
  | unknownFilter | filterFailed | readFailed => rfl

/-- What fails among nodes has left the iteration over them. -/
theorem Scene.outside_of_renderNodes {scene : Scene σ} {nodes : List Node} {run : Run σ}
    {failure : Failure} (h : (scene.renderNodes nodes run).1 = .error failure) :
    failure.outside = failure := by
  induction nodes generalizing run with
  | nil => cases h
  | cons node nodes ih =>
      rcases hnode : scene.renderNode node run with ⟨found | text, run'⟩
      · rw [renderNodes_cons_error (by rw [hnode])] at h
        cases h
        exact found.outside_outside
      · exact ih ((renderNodes_cons_error_iff hnode).mp h)

/-- A single node renders as that node, but its failure leaves an iteration. -/
theorem Scene.renderNodes_singleton_run (scene : Scene σ) (node : Node) (run : Run σ) :
    scene.renderNodes [node] run
      = ((scene.renderNode node run).1.mapError Failure.outside, (scene.renderNode node run).2) := by
  rw [renderNodes_cons_run]
  rcases scene.renderNode node run with ⟨failure | text, run'⟩
  · rfl
  · simp only [renderNodes, Except.mapError]
    exact Prod.ext (congrArg Except.ok (String.append_empty)) rfl

/-- What is reported if the text of a report is filtered and what comes out is shown. A fault in showing
it leaves the render as `leaving` makes of it. -/
def Report.filtered (leaving : Fault → Fault) (scene : Scene σ) (calls : List Call)
    (report : Report σ String) : Report σ String :=
  match report.result with
  | .error _ => report
  | .ok text =>
    match scene.applyCalls (.str text) calls report.run with
    | (.error failure, run) => { report with result := .error (.evaluation failure), run }
    | (.ok final, run) =>
      let result := final.shown.mapError fun cause => .evaluation (.fault (leaving cause))
      { report with result, run }

theorem Report.filtered_nil (leaving : Fault → Fault) (scene : Scene σ) (report : Report σ String) :
    report.filtered leaving scene [] = report := by
  obtain ⟨result, run, log⟩ := report
  cases result <;> rfl

/-- What nodes give, as it is reported. -/
def Scene.report (scene : Scene σ) (nodes : List Node) (run : Run σ) : Report σ String where
  result := (scene.renderNodes nodes run).1.mapError .evaluation
  run := (scene.renderNodes nodes run).2

/-- A group reports what its children report, filtered. -/
theorem Scene.report_group (scene : Scene σ) (nodes : List Node) (calls : List Call)
    (run : Run σ) :
    scene.report [.group nodes calls] run
      = (scene.report nodes run).filtered Fault.outside scene calls := by
  simp only [report, renderNodes_singleton_run, renderNode_group_run]
  rcases hnodes : scene.renderNodes nodes run with ⟨failure | text, run₁⟩
  · have hfailure : failure.outside = failure := outside_of_renderNodes (by rw [hnodes])
    simp only [Except.mapError, hfailure]
    rfl
  · simp only [showFiltered_run, Except.mapError, Report.filtered]
    rcases hcalls : scene.applyCalls (.str text) calls run₁ with ⟨failure | final, run₂⟩
    · have hfailure : failure.outside = failure :=
        Failure.outside_of_isError (applyCalls_error (by rw [hcalls]))
      simp only [hfailure]
    · cases hshown : final.shown with
      | error cause => simp only [hshown, Failure.outside_fault]
      | ok shown => simp only [hshown]

end Rendering

/-! ## Engines -/

namespace Engine

variable {σ : Type} {e : Engine} {template : String} {nodes : List Node}

theorem compile_iff_readsAs :
    e.compile (.str template) = .ok nodes
      ↔ ReadsAs e.options.symbols (Text.segment template) nodes := by
  rw [compile_eq_ok_iff]
  constructor
  · intro h p
    exact parse_of_outline (alternating_tokenize _ _) (outline_tokensFrom 0 p _) h
  · intro h
    exact h 0

/-- Nodes that report what those of another template report, filtered, make such a render. -/
theorem renderStrict_filtered {wrapped : String} {nodes' : List Node} (calls : List Call)
    (h : e.compile (.str template) = .ok nodes) (h' : e.compile (.str wrapped) = .ok nodes')
    (a : Arguments σ)
    (hreport : ∀ run, (e.scene a).report nodes' run
      = ((e.scene a).report nodes run).filtered Fault.outside (e.scene a) calls) (run : Run σ) :
    e.renderStrict (.str wrapped) a run
      = (e.renderStrict (.str template) a run).filtered Fault.outside (e.scene a) calls := by
  by_cases ha : a.Accepted
  · rw [renderStrict_of_compile ha h, renderStrict_of_compile ha h']
    exact hreport run
  · obtain ⟨error, herror⟩ := renderStrict_of_not_accepted ha
    rw [herror, herror]
    rfl

theorem render_congr {s t : String} {a : Arguments σ} {run : Run σ}
    (h : e.renderStrict (.str s) a run = e.renderStrict (.str t) a run) (flags : Flags) :
    e.render flags (.str s) a run = e.render flags (.str t) a run := by
  rw [render, render, renderOutcome, renderOutcome, h]

end Engine

/-- The pieces of a group around a template, with calls of filters. -/
def groupPieces (symbols : Symbols) (template : String) (ks : List (CallText symbols)) :
    List String :=
  symbols.groupStart :: template :: (ks.map CallText.text ++ [symbols.groupEnd])

/-- The pieces of so many groups around a template, one in the other. -/
def nestedPieces (symbols : Symbols) (n : Nat) (template : String) : List String :=
  List.replicate n symbols.groupStart ++ template :: List.replicate n symbols.groupEnd

/-- Nodes in so many groups without filters. -/
def nested : Nat → List Node → List Node
  | 0, nodes => nodes
  | n + 1, nodes => [.group (nested n nodes) []]

section Pieces

variable {table : String} (hvalid : Symbols.ofText table = .ok symbols)
include hvalid

theorem segment_groupPieces {template : String} {ks : List (CallText symbols)}
    (h : KeepsClusters (groupPieces symbols template ks)) :
    Text.segment (String.join (groupPieces symbols template ks))
      = symbols.groupStart :: (Text.segment template
          ++ (ks.flatMap (fun k => Text.segment k.text) ++ [symbols.groupEnd])) := by
  have hstart : Text.segment symbols.groupStart = [symbols.groupStart] :=
    Symbols.segment_ofRole hvalid (k := .groupStart) (by decide)
  have hstop : Text.segment symbols.groupEnd = [symbols.groupEnd] :=
    Symbols.segment_ofRole hvalid (k := .groupEnd) (by decide)
  rw [h, groupPieces, List.flatMap_cons, List.flatMap_cons, List.flatMap_append, List.flatMap_map,
    List.flatMap_singleton, hstart, hstop]
  rfl

theorem segment_nestedPieces {template : String} {n : Nat}
    (h : KeepsClusters (nestedPieces symbols n template)) :
    Text.segment (String.join (nestedPieces symbols n template))
      = List.replicate n symbols.groupStart
          ++ (Text.segment template ++ List.replicate n symbols.groupEnd) := by
  have hreplicate {k : TokenKind} (hk : k ≠ .literal) :
      (List.replicate n (symbols.ofRole k)).flatMap Text.segment
        = List.replicate n (symbols.ofRole k) := by
    rw [List.flatMap_replicate, Symbols.segment_ofRole hvalid hk, List.flatten_replicate_singleton]
  rw [h, nestedPieces, List.flatMap_append, List.flatMap_cons]
  exact congr (congrArg _ (hreplicate (k := .groupStart) (by decide)))
    (congrArg _ (hreplicate (k := .groupEnd) (by decide)))

theorem ReadsAs.nested {cs : List String} {nodes : List Node} (h : ReadsAs symbols cs nodes)
    (n : Nat) :
    ReadsAs symbols
      (List.replicate n symbols.groupStart ++ (cs ++ List.replicate n symbols.groupEnd))
      (nested n nodes) := by
  induction n with
  | zero => simpa [Stencil.nested] using h
  | succ n ih =>
      have hgroup := ih.group hvalid []
      rw [List.replicate_succ, List.replicate_succ', Stencil.nested]
      simpa using hgroup

end Pieces

theorem Scene.report_nested {σ : Type} (scene : Scene σ) (n : Nat) (nodes : List Node)
    (run : Run σ) : scene.report (nested n nodes) run = scene.report nodes run := by
  induction n with
  | zero => rfl
  | succ n ih => rw [nested, report_group, Report.filtered_nil, ih]

/--
A template in a group has one node, a group with the nodes of the template, if the pieces keep their
clusters; its filters are the calls that stand behind the template. It renders as the template and,
unless that fails, what the filters make of the text is shown; a fault in showing it is seen from
outside the iteration over the nodes. And any number of groups without filters renders as the template
alone.
-/
theorem renderStrict_wrapped (e : Engine) (template : String) (nodes : List Node)
    (hcompile : e.compile (.str template) = .ok nodes) :
    (∀ ks : List (CallText e.options.symbols),
      KeepsClusters (groupPieces e.options.symbols template ks) →
      let wrapped := String.join (groupPieces e.options.symbols template ks)
      e.compile (.str wrapped) = .ok [.group nodes (ks.map CallText.call)]
        ∧ ∀ {σ : Type} (a : Arguments σ) (run : Run σ),
          e.renderStrict (.str wrapped) a run
            = (e.renderStrict (.str template) a run).filtered Fault.outside (e.scene a)
                (ks.map CallText.call))
    ∧ ∀ n : Nat, KeepsClusters (nestedPieces e.options.symbols n template) →
      let wrapped := String.join (nestedPieces e.options.symbols n template)
      e.compile (.str wrapped) = .ok (nested n nodes)
        ∧ ∀ {σ : Type} (a : Arguments σ) (run : Run σ),
          e.renderStrict (.str wrapped) a run = e.renderStrict (.str template) a run
            ∧ ∀ flags, e.render flags (.str wrapped) a run
                = e.render flags (.str template) a run := by
  have hreads := Engine.compile_iff_readsAs.mp hcompile
  constructor
  · intro ks hkeeps
    have hwrapped : e.compile (.str (String.join (groupPieces e.options.symbols template ks)))
        = .ok [.group nodes (ks.map CallText.call)] := by
      rw [Engine.compile_iff_readsAs, segment_groupPieces e.options.valid hkeeps]
      exact hreads.group e.options.valid ks
    refine ⟨hwrapped, fun a run => ?_⟩
    exact Engine.renderStrict_filtered (ks.map CallText.call) hcompile hwrapped a
      ((e.scene a).report_group nodes (ks.map CallText.call)) run
  · intro n hkeeps
    have hwrapped : e.compile (.str (String.join (nestedPieces e.options.symbols n template)))
        = .ok (nested n nodes) := by
      rw [Engine.compile_iff_readsAs, segment_nestedPieces e.options.valid hkeeps]
      exact hreads.nested e.options.valid n
    refine ⟨hwrapped, fun a run => ?_⟩
    have hstrict := Engine.renderStrict_filtered [] hcompile hwrapped a
      (fun run => by rw [Scene.report_nested, Report.filtered_nil]) run
    rw [Report.filtered_nil] at hstrict
    exact ⟨hstrict, Engine.render_congr hstrict⟩

/-- The calls `| pad = 2` and `|upper`. -/
def sampleCalls : List (CallText {}) :=
  [{ name := ⟨" pad ", by decide⟩
     notBlank := by decide
     value := some ⟨⟨" 2", by decide⟩, .literal (.int 2), rfl⟩
     keeps := by decide },
   { name := ⟨"upper", by decide⟩
     notBlank := by decide
     value := none
     keeps := by decide }]

/-- A variable in a group with two filters, and in two groups without any. -/
theorem renderStrict_wrapped_variable :
    Engine.plain.compile (.str "[Hi \x7ba\x7d| pad = 2|upper]")
        = .ok [.group [.literal "Hi ", .variable ["a"] [] "\x7ba\x7d"]
            [⟨"pad", some (.literal (.int 2))⟩, ⟨"upper", none⟩]]
      ∧ ∀ (a : Arguments Unit) (run : Run Unit),
        Engine.plain.renderStrict (.str "[[Hi \x7ba\x7d]]") a run
          = Engine.plain.renderStrict (.str "Hi \x7ba\x7d") a run := by
  have hcompile : Engine.plain.compile (.str "Hi \x7ba\x7d")
      = .ok [.literal "Hi ", .variable ["a"] [] "\x7ba\x7d"] := rfl
  obtain ⟨hgroup, hnested⟩ := renderStrict_wrapped Engine.plain _ _ hcompile
  have hkeeps : KeepsClusters (groupPieces {} "Hi \x7ba\x7d" sampleCalls) := by decide
  have hkeeps₂ : KeepsClusters (nestedPieces {} 2 "Hi \x7ba\x7d") := by decide
  exact ⟨(hgroup sampleCalls hkeeps).1, fun a run => ((hnested 2 hkeeps₂).2 a run).1⟩

/-- The call `|f`. -/
def plainCall : CallText {} where
  name := ⟨"f", by decide⟩
  notBlank := by decide
  value := none
  keeps := by decide

/-- A filter that gives a value which has nothing left to iterate over when it is shown. -/
def Arguments.exhausting : Arguments Unit where
  context := .dict []
  filters := .registry
    [("f", .function fun _ _ state =>
      (.ok (.withoutText (.raised { name := "StopIteration", isExhausted := true } "boom")), state))]

/-- It is not enough that the text of a call keeps its clusters as a whole: the mark at the start of this
name, which holds no symbol, makes one cluster with the symbol of the filter, and so there is no filter.
And a value which has nothing left to iterate over does not raise its own fault for the render. -/
theorem not_wrapped_of_pieces :
    let symbols : Symbols := {}
    let name : PlainText symbols := ⟨"\u0301f", by decide⟩
    let pieces := [symbols.groupStart, "a", symbols.filter ++ name.text, symbols.groupEnd]
    let wrapped := String.join (groupPieces symbols "a" [plainCall])
    Engine.plain.compile (.str "a") = .ok [.literal "a"]
      ∧ strip name.text.toList ≠ [] ∧ KeepsClusters pieces
      ∧ Engine.plain.compile (.str (String.join pieces)) = .ok [.group [.literal "a|\u0301f"] []]
      ∧ Engine.plain.compile (.str (String.join pieces))
        ≠ .ok [.group [.literal "a"] [⟨name.text, none⟩]]
      ∧ KeepsClusters (groupPieces symbols "a" [plainCall])
      ∧ Engine.plain.renderStrict (.str wrapped) .exhausting ⟨(), []⟩
        ≠ (Engine.plain.renderStrict (.str "a") .exhausting ⟨(), []⟩).filtered id
            (Engine.plain.scene .exhausting) [plainCall.call] := by
  intro symbols name pieces wrapped
  have hjoin : String.join pieces = "[a|\u0301f]" := by decide
  have hcompile : Engine.plain.compile (.str (String.join pieces))
      = .ok [.group [.literal "a|\u0301f"] []] := by
    rw [hjoin]
    rfl
  refine ⟨rfl, by decide, by decide, hcompile, ?_, by decide, ?_⟩
  · simp [hcompile]
  · intro h
    have hresult := congrArg Report.result h
    have htext : wrapped = "[a|f]" := by decide
    rw [htext] at hresult
    cases hresult

end Stencil

import Mathlib.Data.List.Chain
import Mathlib.Data.List.DropRight
import Stencil.Proofs.Concatenation
import Stencil.Proofs.Locality
import Stencil.Proofs.WholeClusters

/-!
# The normal form of nodes

What a template compiles to has a normal form, at every depth (`compile_normal`): bodies have nodes,
no two literals stand side by side, and an empty one is all of an empty body; a literal is a literal
again when it is tokenized; and paths, names of filters and keys have no blanks around them and
cannot be taken for something else.

Most of it is read off a tree of the grammar. That a literal stands for itself, and that the body of
a group compiles to its children when it stands alone, also needs that tokenizing is local.
-/

namespace Stencil

open Text Parse Grammar

/-! ## Normal forms -/

/-- There is something in the text, and no blanks around it. -/
structure Trimmed (text : String) : Prop where
  ne_empty : text ≠ ""
  stripped : strip text.toList = text.toList

/-- The text of a parameter that is a key: it is neither a string nor a truth value nor a number. -/
structure IsKey (key : String) : Prop where
  trimmed : Trimmed key
  unquoted : key.toList.head? ≠ some '"'
  not_true : key ≠ "true"
  not_false : key ≠ "false"
  not_number : readNumber? key = .ok none

/-- The call has a name and, if its parameter is a reference, a key. -/
structure Call.Normal (call : Call) : Prop where
  name : Trimmed call.name
  key : ∀ key, call.param = some (.reference key) → IsKey key

/-- The path is read off a text that its source shows between the symbols of a variable. -/
structure NormalPath (symbols : Symbols) (path : List String) (source : String) : Prop where
  ne_nil : path ≠ []
  segments : ∀ segment ∈ path, Trimmed segment ∧ '.' ∉ segment.toList
  source : ∃ text, source = symbols.varStart ++ text ++ symbols.varEnd
    ∧ (pathSegments text).map String.ofList = path

def Node.isLiteral : Node → Bool
  | .literal _ => true
  | _ => false

/-- The nodes of a body with this text: there are some, literals are apart, and an empty one stands
for an empty body. -/
structure NormalBody (text : String) (nodes : List Node) : Prop where
  ne_nil : nodes ≠ []
  apart : nodes.IsChain fun x y => x.isLiteral → ¬y.isLiteral
  empty : .literal "" ∈ nodes → text = "" ∧ nodes = [.literal ""]

/-- The clusters stand between the opening symbol of a group in the template and the symbol behind
its body, that of a filter or the closing one. -/
def IsBody (symbols : Symbols) (template : String) (body : List String) : Prop :=
  ∃ stop, (stop = symbols.filter ∨ stop = symbols.groupEnd)
    ∧ symbols.groupStart :: (body ++ [stop]) <:+: Text.segment template

/-- A node of a template, apart from the nodes inside it. -/
inductive Node.Normal (e : Engine) (template : String) : Node → Prop
  | literal {text : String} (h : tokenize e.options.symbols text = [⟨.literal, text, 0⟩]) :
      Normal e template (.literal text)
  | variable {path : List String} {calls : List Call} {source : String}
      (hpath : NormalPath e.options.symbols path source) (hcalls : ∀ call ∈ calls, call.Normal) :
      Normal e template (.variable path calls source)
  | group {children : List Node} {calls : List Call} (body : List String)
      (hbody : IsBody e.options.symbols template body)
      (hcompile : e.compile (.str (String.join body)) = .ok children)
      (hchildren : NormalBody (String.join body) children) (hcalls : ∀ call ∈ calls, call.Normal) :
      Normal e template (.group children calls)

/-! ## Stripped texts -/

theorem strip_strip (cs : List Char) : strip (strip cs) = strip cs := by
  have hstrip : ∀ xs, strip xs = (xs.dropWhile isBlank).rdropWhile isBlank := fun _ => rfl
  have hfirst : (strip cs).dropWhile isBlank = strip cs := by
    rw [List.dropWhile_eq_self_iff]
    intro hpos
    have hfront : strip cs <+: cs.dropWhile isBlank := List.rdropWhile_prefix ..
    rw [hfront.getElem]
    exact List.dropWhile_get_zero_not isBlank cs _
  rw [hstrip (strip cs), hfirst, hstrip cs, List.rdropWhile_idempotent]

theorem trimmed_strip {cs : List Char} (h : strip cs ≠ []) :
    Trimmed (String.ofList (strip cs)) where
  ne_empty := fun hempty => h (String.ofList_eq_empty_iff.mp hempty)
  stripped := by rw [String.toList_ofList, strip_strip]

theorem not_mem_of_mem_splitOn {α : Type} [BEq α] [LawfulBEq α] {a : α} {xs piece : List α}
    (h : piece ∈ xs.splitOn a) : a ∉ piece := by
  induction xs generalizing piece with
  | nil =>
      rw [List.splitOn_nil, List.mem_singleton] at h
      rw [h]
      exact List.not_mem_nil
  | cons x xs ih =>
      rw [List.splitOn_cons_eq_if_modifyHead] at h
      split at h
      · rcases List.mem_cons.mp h with rfl | h
        · exact List.not_mem_nil
        · exact ih h
      · next hx =>
          have hne : a ≠ x := fun heq => hx (heq ▸ BEq.rfl)
          cases hsplit : xs.splitOn a with
          | nil => exact absurd hsplit (List.splitOn_ne_nil a xs)
          | cons first rest =>
              rw [hsplit, List.modifyHead_cons] at h
              rcases List.mem_cons.mp h with rfl | h
              · have hfirst : a ∉ first := ih (hsplit ▸ List.mem_cons_self)
                exact List.not_mem_cons_of_ne_of_not_mem hne hfirst
              · exact ih (hsplit ▸ List.mem_cons_of_mem _ h)

theorem isKey_of_ofText {text key : String} (h : Param.ofText text = .ok (.reference key)) :
    IsKey key := by
  have hkey : key = String.ofList (strip text.toList) := Param.key_eq_of_ofText h rfl
  unfold Param.ofText Param.ofStripped at h
  split at h
  · cases h
  · split at h <;> cases h
  · next hempty hquote =>
      rw [← hkey] at h
      simp only at h
      split at h
      · cases h
      · next htrue =>
          split at h
          · cases h
          · next hfalse =>
              split at h
              · cases h
              · cases h
              · next hnumber =>
                  refine ⟨hkey ▸ trimmed_strip hempty, ?_, htrue, hfalse, hnumber⟩
                  rw [hkey, String.toList_ofList]
                  intro hhead
                  obtain ⟨rest, hrest⟩ := List.head?_eq_some_iff.mp hhead
                  exact hquote rest hrest

/-! ## Normal forms of trees -/

namespace Grammar

theorem FilterText.normal (f : FilterText) : f.call.Normal where
  name := trimmed_strip f.name.valid
  key key h := by
    obtain ⟨p, hp, hparam⟩ := Option.map_eq_some_iff.mp h
    exact isKey_of_ofText (hparam ▸ p.valid)

theorem normal_of_mem_filters {fs : List FilterText} :
    ∀ call ∈ fs.map FilterText.call, call.Normal :=
  List.forall_mem_map.mpr fun f _ => f.normal

theorem PathText.normal (symbols : Symbols) (path : PathText) :
    NormalPath symbols ((pathSegments path.token.val.text).map String.ofList)
      (symbols.varStart ++ path.token.val.text ++ symbols.varEnd) where
  ne_nil := by simp [pathSegments]
  segments := by
    intro segment hsegment
    obtain ⟨cs, hcs, rfl⟩ := List.mem_map.mp hsegment
    have hne : cs ≠ [] := path.valid cs hcs
    obtain ⟨piece, hpiece, rfl⟩ := List.mem_map.mp hcs
    refine ⟨trimmed_strip hne, fun hpoint => ?_⟩
    rw [String.toList_ofList] at hpoint
    exact not_mem_of_mem_splitOn hpiece ((trim_isInfix isBlank piece).subset hpoint)
  source := ⟨_, rfl, rfl⟩

theorem Item.not_isLiteral (symbols : Symbols) (x : Item) : ¬(x.node symbols).isLiteral := by
  cases x <;> rw [Item.node] <;> exact Bool.false_ne_true

/-- Between two literals there is always an item. -/
theorem Items.apart {symbols : Symbols} : ∀ d : Items,
    (d.nodes symbols).IsChain fun x y => x.isLiteral → ¬y.isLiteral
  | .last text => by
      rw [nodes, literalNodes]
      split
      · exact .nil
      · exact .singleton _
  | .more text item rest => by
      have hitem : (item.node symbols :: rest.nodes symbols).IsChain
          fun x y => x.isLiteral → ¬y.isLiteral :=
        List.isChain_cons.mpr
          ⟨fun _ _ hliteral => absurd hliteral (item.not_isLiteral symbols), rest.apart⟩
      rw [nodes, literalNodes]
      split
      · exact hitem
      · exact List.isChain_cons_cons.mpr ⟨fun _ => item.not_isLiteral symbols, hitem⟩

theorem empty_not_mem_literalNodes (text : String) : Node.literal "" ∉ literalNodes text := by
  unfold literalNodes
  split
  · exact List.not_mem_nil
  · next h =>
      rw [List.mem_singleton, Node.literal.injEq]
      rintro rfl
      exact h rfl

theorem Items.empty_not_mem {symbols : Symbols} : ∀ d : Items, Node.literal "" ∉ d.nodes symbols
  | .last text => by
      rw [nodes]
      exact empty_not_mem_literalNodes _
  | .more text item rest => by
      rw [nodes, List.mem_append, List.mem_cons, not_or, not_or]
      refine ⟨empty_not_mem_literalNodes _, fun hitem => ?_, rest.empty_not_mem⟩
      exact item.not_isLiteral symbols (hitem ▸ rfl)

theorem Items.normalBody (symbols : Symbols) (d : Items) :
    NormalBody (sourceOf d.tokens) (bodyOf (d.nodes symbols)) := by
  have hchain : (d.nodes symbols).IsChain fun x y => x.isLiteral → ¬y.isLiteral := d.apart
  have hempty : Node.literal "" ∉ d.nodes symbols := d.empty_not_mem
  unfold bodyOf
  split
  · next h =>
      obtain ⟨t, htokens, -, htext⟩ := exists_literal_of_nodes_eq_nil (List.isEmpty_iff.mp h)
      refine ⟨List.cons_ne_nil _ _, .singleton _, fun _ => ⟨?_, rfl⟩⟩
      rw [htokens, sourceOf, List.map_singleton, htext]
      rfl
  · next h =>
      exact ⟨fun hnil => h (List.isEmpty_iff.mpr hnil), hchain, fun hmem => absurd hmem hempty⟩

end Grammar

/-! ## What items hold in the template -/

/-- Behind what an item holds there is a filter, or the item is closed. -/
theorem exists_cons_of_filters (fs : List FilterText) {closing : TokenKind}
    (stop : Lexeme closing) :
    ∃ u us, filterTokens fs ++ [stop.val] = u :: us ∧ (u.kind = .filter ∨ u.kind = closing) := by
  cases fs with
  | nil => exact ⟨stop.val, [], rfl, .inr stop.property⟩
  | cons f fs => exact ⟨f.symbol.val, _, rfl, .inl f.symbol.property⟩

/-- What stands behind the opening symbol of an item, up to its filters or its closing symbol, has the
tokens of a run of clusters, but from a position of their own. -/
theorem exists_clusters_inside {symbols : Symbols} {template : String} {opening closing : TokenKind}
    (hopening : opening ≠ .literal) (hclosing : closing ≠ .literal) {start : Lexeme opening}
    {inside : List Token} {filters : List FilterText} {stop : Lexeme closing}
    (h : start.val :: (inside ++ (filterTokens filters ++ [stop.val]))
      <:+: tokenize symbols template) :
    ∃ clusters q after, (after = symbols.filter ∨ after = symbols.ofRole closing)
      ∧ symbols.ofRole opening :: (clusters ++ [after]) <:+: Text.segment template
      ∧ Text.segment (String.join clusters) = clusters
      ∧ tokensFrom symbols q clusters = inside := by
  obtain ⟨u, us, heq, hu⟩ := exists_cons_of_filters filters stop
  obtain ⟨front, back, htokens⟩ := h
  have hsplit : tokenize symbols template
      = front ++ start.val :: (inside ++ u :: (us ++ back)) := by
    rw [← htokens, heq]
    simp
  have hsymbol : ∀ t ∈ tokenize symbols template, t.kind ≠ .literal →
      t.text = symbols.ofRole t.kind := fun t ht hkind =>
    Symbols.eq_ofRole_of_kind? (kind?_of_mem_tokensFrom ht hkind)
  have hstart : start.val.kind ≠ .literal := by rwa [start.property]
  have hstop : u.kind ≠ .literal := by
    rcases hu with hu | hu <;> rw [hu]
    · decide
    · exact hclosing
  have hstartText := hsymbol start.val (by simp [hsplit]) hstart
  have hstopText := hsymbol u (by simp [hsplit]) hstop
  obtain ⟨clusters, q, hclusters, hinside⟩ := exists_clusters_between hsplit hstart hstop
  have hpart : clusters <:+: start.val.text :: (clusters ++ [u.text]) :=
    ⟨[start.val.text], [u.text], by simp⟩
  refine ⟨clusters, q, u.text, ?_, ?_, segment_join_of_infix (hpart.trans hclusters), hinside⟩
  · rw [hstopText]
    rcases hu with hu | hu <;> rw [hu]
    · exact .inl rfl
    · exact .inr rfl
  · rw [hstartText, start.property] at hclusters
    exact hclusters

/-- The clusters of the body of a group have its tokens. -/
theorem exists_isBody {symbols : Symbols} {template : String} {start : Lexeme .groupStart}
    {body : Items} {filters : List FilterText} {stop : Lexeme .groupEnd}
    (h : (Item.group start body filters stop).tokens <:+: tokenize symbols template) :
    ∃ clusters q, IsBody symbols template clusters
      ∧ Text.segment (String.join clusters) = clusters
      ∧ tokensFrom symbols q clusters = body.tokens := by
  rw [Item.tokens] at h
  obtain ⟨clusters, q, after, hafter, hclusters, hself, hbody⟩ :=
    exists_clusters_inside (by decide) (by decide) h
  exact ⟨clusters, q, ⟨after, hafter, hclusters⟩, hself, hbody⟩

theorem Grammar.Item.normal (e : Engine) {template : String} (x : Item)
    (hx : x.tokens <:+: tokenize e.options.symbols template) :
    (x.node e.options.symbols).Normal e template := by
  cases x with
  | «variable» start path filters stop =>
      rw [Item.node]
      exact .variable (path.normal _) normal_of_mem_filters
  | group start body filters stop =>
      obtain ⟨clusters, q, hclusters, hself, hbody⟩ := exists_isBody hx
      have hcompile : e.compile (.str (String.join clusters))
          = .ok (bodyOf (body.nodes e.options.symbols)) :=
        Engine.compile_of_tokens (p := q) (by rw [hself, hbody])
      have hnormal := body.normalBody e.options.symbols
      rw [← hbody, sourceOf_tokensFrom] at hnormal
      rw [Item.node]
      exact .group clusters hclusters hcompile hnormal normal_of_mem_filters

/--
What a template compiles to is in normal form: its nodes are those of a body with the text of the
template, and each node at every depth is normal. A literal is the only token of its text. A path
has segments, which have no point and no blanks around them, and the source of the variable shows
the text that is split into them. Names of filters and keys have no blanks around them, and a key
cannot be read as anything else. The children of a group are in normal form, and are what the body
of the group compiles to when it stands alone.
-/
theorem compile_normal (e : Engine) (template : String) (nodes : List Node)
    (h : e.compile (.str template) = .ok nodes) :
    NormalBody template nodes ∧ ∀ node ∈ Node.partsOf nodes, node.Normal e template := by
  obtain ⟨d, hd, rfl⟩ := Engine.exists_items_of_compile h
  have hbody := d.normalBody e.options.symbols
  rw [hd, tokenize_eq, sourceOf_tokensFrom, join_segment] at hbody
  refine ⟨hbody, fun node hnode => ?_⟩
  rcases d.exists_of_mem_partsOf hnode with ⟨t, ht, hkind, rfl⟩ | ⟨x, rfl, hpart⟩
  · exact .literal (tokenize_of_literal (hd ▸ ht) hkind)
  · exact x.normal e (hd ▸ hpart)

/-- A path, a key, and a group with an empty body. -/
theorem compile_normal_sample :
    Engine.plain.compile (.str "a\x7b x . y | f = k \x7d[|f]")
        = .ok [.literal "a",
          .variable ["x", "y"] [⟨"f", some (.reference "k")⟩] "\x7b x . y \x7d",
          .group [.literal ""] [⟨"f", none⟩]]
      ∧ IsKey "k" := by
  have hcompile : Engine.plain.compile (.str "a\x7b x . y | f = k \x7d[|f]")
      = .ok [.literal "a",
        .variable ["x", "y"] [⟨"f", some (.reference "k")⟩] "\x7b x . y \x7d",
        .group [.literal ""] [⟨"f", none⟩]] := rfl
  obtain ⟨-, hnormal⟩ := compile_normal Engine.plain _ _ hcompile
  refine ⟨hcompile, ?_⟩
  cases hnormal (.variable ["x", "y"] [⟨"f", some (.reference "k")⟩] "\x7b x . y \x7d")
    (by simp [Node.partsOf, Node.parts]) with
  | «variable» _ hcalls => exact (hcalls _ List.mem_cons_self).key "k" rfl

end Stencil

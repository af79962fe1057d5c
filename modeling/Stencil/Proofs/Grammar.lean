import Stencil.Proofs.Transitions

/-!
# The grammar of templates

    items  := LITERAL (item LITERAL)*
    item   := VAR_START LITERAL filter* VAR_END | GROUP_START items filter* GROUP_END
    filter := FILTER LITERAL (PARAM LITERAL)?

A tree of the grammar carries the proofs that its tokens have the kinds of their places and that its
literals hold what they must: paths have no empty segment, names are not blank, parameters can be
read. So a derivation of some tokens is just a tree whose tokens they are. Each tree denotes nodes,
and no two trees have the same tokens (`Items.unique`).
-/

namespace Stencil.Grammar

open Text Parse

/-! ## Trees -/

/-- A token of a given kind. -/
abbrev Lexeme (kind : TokenKind) := { t : Token // t.kind = kind }

/-- The segments of a path: the pieces of its text between points, without blanks around them. -/
def pathSegments (text : String) : List (List Char) :=
  (text.toList.splitOn '.').map strip

/-- The path of a variable. -/
structure PathText where
  token : Lexeme .literal
  valid : ∀ segment ∈ pathSegments token.val.text, segment ≠ []

/-- The name of a filter. -/
structure NameText where
  token : Lexeme .literal
  valid : strip token.val.text.toList ≠ []

/-- A parameter, after its symbol. -/
structure ParamText where
  symbol : Lexeme .param
  token : Lexeme .literal
  param : Param
  valid : Param.ofText token.val.text = .ok param

/-- A filter call. -/
structure FilterText where
  symbol : Lexeme .filter
  name : NameText
  param : Option ParamText

mutual

/-- A variable or a group. -/
inductive Item where
  | variable (start : Lexeme .varStart) (path : PathText) (filters : List FilterText)
      (stop : Lexeme .varEnd)
  | group (start : Lexeme .groupStart) (body : Items) (filters : List FilterText)
      (stop : Lexeme .groupEnd)

/-- The body of a template or of a group: items between literals. -/
inductive Items where
  | last (text : Lexeme .literal)
  | more (text : Lexeme .literal) (item : Item) (rest : Items)

end

/-! ## The tokens of a tree -/

def ParamText.tokens (p : ParamText) : List Token :=
  [p.symbol.val, p.token.val]

def FilterText.tokens (f : FilterText) : List Token :=
  f.symbol.val :: f.name.token.val :: f.param.elim [] ParamText.tokens

def filterTokens (fs : List FilterText) : List Token :=
  fs.flatMap FilterText.tokens

@[simp] theorem filterTokens_nil : filterTokens [] = [] := rfl

@[simp] theorem filterTokens_cons (f : FilterText) (fs : List FilterText) :
    filterTokens (f :: fs) = f.tokens ++ filterTokens fs := List.flatMap_cons

mutual

def Item.tokens : Item → List Token
  | .variable start path filters stop =>
    start.val :: path.token.val :: (filterTokens filters ++ [stop.val])
  | .group start body filters stop =>
    start.val :: (body.tokens ++ (filterTokens filters ++ [stop.val]))

def Items.tokens : Items → List Token
  | .last text => [text.val]
  | .more text item rest => text.val :: (item.tokens ++ rest.tokens)

end

/-! ## What a tree denotes -/

def FilterText.call (f : FilterText) : Call where
  name := String.ofList (strip f.name.token.val.text.toList)
  param := f.param.map (·.param)

mutual

/-- A variable shows the symbols of the table around the text of its path, if it has no value. -/
def Item.node (symbols : Symbols) : Item → Node
  | .variable _ path filters _ =>
    .variable ((pathSegments path.token.val.text).map String.ofList)
      (filters.map FilterText.call) (symbols.varStart ++ path.token.val.text ++ symbols.varEnd)
  | .group _ body filters _ => .group (bodyOf (body.nodes symbols)) (filters.map FilterText.call)

/-- The nodes in order, without the empty literals. -/
def Items.nodes (symbols : Symbols) : Items → List Node
  | .last text => literalNodes text.val.text
  | .more text item rest =>
    literalNodes text.val.text ++ item.node symbols :: rest.nodes symbols

end

/-! ## Unambiguity -/

theorem NameText.ext_token {a b : NameText} (h : a.token.val = b.token.val) : a = b := by
  cases a; cases b; cases Subtype.ext h; rfl

theorem PathText.ext_token {a b : PathText} (h : a.token.val = b.token.val) : a = b := by
  cases a; cases b; cases Subtype.ext h; rfl

/-- The text of a parameter decides which one it is. -/
theorem ParamText.ext_tokens {a b : ParamText} (h : a.tokens = b.tokens) : a = b := by
  obtain ⟨symbol, token, param, hparam⟩ := a
  obtain ⟨symbol', token', param', hparam'⟩ := b
  simp only [tokens, List.cons.injEq, and_true] at h
  cases Subtype.ext h.1
  cases Subtype.ext h.2
  rw [hparam] at hparam'
  cases hparam'
  rfl

/-- No parameter and no further filter starts with this token. -/
def EndsFilters (t : Token) : Prop :=
  t.kind ≠ .filter ∧ t.kind ≠ .param

/-- Filters are followed by another one or by their end, never by a parameter. -/
theorem filterTokens_head_kind {fs : List FilterText} {t x : Token} {r us : List Token}
    (hx : EndsFilters x) (h : filterTokens fs ++ x :: r = t :: us) : t.kind ≠ .param := by
  cases fs with
  | nil =>
      rw [filterTokens_nil, List.nil_append, List.cons.injEq] at h
      exact h.1 ▸ hx.2
  | cons f fs =>
      simp only [filterTokens_cons, FilterText.tokens, List.cons_append, List.cons.injEq] at h
      rw [← h.1, f.symbol.property]
      decide

theorem filterTokens_unique : ∀ {fs fs' : List FilterText} {x x' : Token} {r r' : List Token},
    EndsFilters x → EndsFilters x' →
      filterTokens fs ++ x :: r = filterTokens fs' ++ x' :: r' → fs = fs' ∧ x :: r = x' :: r'
  | [], [], _, _, _, _, _, _, h => ⟨rfl, h⟩
  | [], f' :: _, x, _, _, _, hx, _, h => by
      simp only [filterTokens_nil, List.nil_append, filterTokens_cons, FilterText.tokens,
        List.cons_append, List.cons.injEq] at h
      exact absurd (h.1 ▸ f'.symbol.property) hx.1
  | f :: _, [], _, x', _, _, _, hx', h => by
      simp only [filterTokens_nil, List.nil_append, filterTokens_cons, FilterText.tokens,
        List.cons_append, List.cons.injEq] at h
      exact absurd (h.1 ▸ f.symbol.property) hx'.1
  | ⟨symbol, name, param⟩ :: fs, ⟨symbol', name', param'⟩ :: fs', x, x', r, r', hx, hx', h => by
      simp only [filterTokens_cons, FilterText.tokens, List.cons_append, List.append_assoc,
        List.cons.injEq] at h
      obtain ⟨hsymbol, hname, htail⟩ := h
      cases Subtype.ext hsymbol
      cases NameText.ext_token hname
      cases param with
      | none => cases param' with
        | none =>
            obtain ⟨rfl, hrest⟩ := filterTokens_unique hx hx' (by simpa using htail)
            exact ⟨rfl, hrest⟩
        | some p' => exact absurd p'.symbol.property (filterTokens_head_kind hx htail)
      | some p => cases param' with
        | none => exact absurd p.symbol.property (filterTokens_head_kind hx' htail.symm)
        | some p' =>
            simp only [Option.elim, ParamText.tokens, List.cons_append, List.nil_append,
              List.cons.injEq] at htail
            obtain ⟨hp, hv, htail⟩ := htail
            obtain ⟨rfl, hrest⟩ := filterTokens_unique hx hx' htail
            cases ParamText.ext_tokens (a := p) (b := p') (by simp [ParamText.tokens, hp, hv])
            exact ⟨rfl, hrest⟩

/-- What follows a body: nothing, or a token that starts no item. -/
def EndsItems (ts : List Token) : Prop :=
  ∀ t ∈ ts.head?, t.kind ≠ .varStart ∧ t.kind ≠ .groupStart

theorem endsItems_filters (fs : List FilterText) (stop : Lexeme .groupEnd) (r : List Token) :
    EndsItems (filterTokens fs ++ stop.val :: r) := by
  intro t ht
  cases fs with
  | nil =>
      cases ht
      rw [stop.property]
      decide
  | cons f fs =>
      cases ht
      rw [f.symbol.property]
      decide

theorem endsFilters_stop {kind : TokenKind} (hf : kind ≠ .filter) (hp : kind ≠ .param)
    (stop : Lexeme kind) : EndsFilters stop.val := by
  rw [EndsFilters, stop.property]
  exact ⟨hf, hp⟩

theorem Item.tokens_cons (x : Item) :
    ∃ t ts, x.tokens = t :: ts ∧ (t.kind = .varStart ∨ t.kind = .groupStart) := by
  cases x with
  | «variable» start => exact ⟨_, _, by rw [tokens], .inl start.property⟩
  | group start => exact ⟨_, _, by rw [tokens], .inr start.property⟩

theorem EndsItems.ne_item {r us : List Token} (hr : EndsItems r) (x : Item) :
    r ≠ x.tokens ++ us := by
  rintro rfl
  obtain ⟨t, ts, hx, hkind⟩ := x.tokens_cons
  rw [hx] at hr
  obtain ⟨hv, hg⟩ := hr t rfl
  exact hkind.elim hv hg

mutual

/-- An item ends at its own closing symbol, so nothing need be known of what follows. -/
theorem Item.unique : ∀ (x x' : Item) {r r' : List Token},
    x.tokens ++ r = x'.tokens ++ r' → x = x' ∧ r = r'
  | .variable start path filters stop, .variable start' path' filters' stop', r, r', h => by
      simp only [Item.tokens, List.cons_append, List.append_assoc, List.nil_append,
        List.cons.injEq] at h
      obtain ⟨hstart, hpath, htail⟩ := h
      obtain ⟨rfl, hstop⟩ := filterTokens_unique (endsFilters_stop (by decide) (by decide) stop)
        (endsFilters_stop (by decide) (by decide) stop') htail
      rw [List.cons.injEq] at hstop
      cases Subtype.ext hstart
      cases PathText.ext_token hpath
      cases Subtype.ext hstop.1
      exact ⟨rfl, hstop.2⟩
  | .group start body filters stop, .group start' body' filters' stop', r, r', h => by
      simp only [Item.tokens, List.cons_append, List.append_assoc, List.nil_append,
        List.cons.injEq] at h
      obtain ⟨hstart, htail⟩ := h
      obtain ⟨rfl, hfilters⟩ := Items.unique body body' (endsItems_filters filters stop r)
        (endsItems_filters filters' stop' r') htail
      obtain ⟨rfl, hstop⟩ := filterTokens_unique (endsFilters_stop (by decide) (by decide) stop)
        (endsFilters_stop (by decide) (by decide) stop') hfilters
      rw [List.cons.injEq] at hstop
      cases Subtype.ext hstart
      cases Subtype.ext hstop.1
      exact ⟨rfl, hstop.2⟩
  | .variable start _ _ _, .group start' _ _ _, r, r', h => by
      simp only [Item.tokens, List.cons_append, List.cons.injEq] at h
      exact absurd (start'.property.symm.trans (h.1 ▸ start.property)) (by decide)
  | .group start _ _ _, .variable start' _ _ _, r, r', h => by
      simp only [Item.tokens, List.cons_append, List.cons.injEq] at h
      exact absurd (start'.property.symm.trans (h.1 ▸ start.property)) (by decide)

/-- A body goes on as long as there are items, so it ends where none follows. -/
theorem Items.unique : ∀ (d d' : Items) {r r' : List Token}, EndsItems r → EndsItems r' →
    d.tokens ++ r = d'.tokens ++ r' → d = d' ∧ r = r'
  | .last text, .last text', r, r', _, _, h => by
      simp only [Items.tokens, List.cons_append, List.nil_append, List.cons.injEq] at h
      cases Subtype.ext h.1
      exact ⟨rfl, h.2⟩
  | .last text, .more text' item' rest', r, r', hr, _, h => by
      simp only [Items.tokens, List.cons_append, List.nil_append, List.append_assoc,
        List.cons.injEq] at h
      exact absurd h.2 (hr.ne_item item')
  | .more text item rest, .last text', r, r', _, hr', h => by
      simp only [Items.tokens, List.cons_append, List.nil_append, List.append_assoc,
        List.cons.injEq] at h
      exact absurd h.2.symm (hr'.ne_item item)
  | .more text item rest, .more text' item' rest', r, r', hr, hr', h => by
      simp only [Items.tokens, List.cons_append, List.append_assoc, List.cons.injEq] at h
      obtain ⟨htext, htail⟩ := h
      obtain ⟨rfl, hrest⟩ := Item.unique item item' htail
      obtain ⟨rfl, hend⟩ := Items.unique rest rest' hr hr' hrest
      cases Subtype.ext htext
      exact ⟨rfl, hend⟩

end

theorem Items.eq_of_tokens {d d' : Items} (h : d.tokens = d'.tokens) : d = d' := by
  have hnil : EndsItems [] := nofun
  have happend : d.tokens ++ [] = d'.tokens ++ [] := by rw [h]
  exact (Items.unique d d' hnil hnil happend).1

end Stencil.Grammar

import Stencil.Proofs.Boundaries
import Stencil.Proofs.Mentions

/-!
# Names and clusters

A template is scanned by clusters, but the text of a literal token is read by characters: a path is
split at its points, and blanks are dropped at both ends of a segment, a name or a parameter. What
comes out is made of whole clusters (`identifiers_ofClusters`) as long as the clusters are whole for
this reading too: a point of a path is a cluster of its own, and a cluster that starts or ends with a
blank has only blanks. A mark on a point does not obey this, and is torn off
(`identifier_not_ofClusters`).
-/

namespace Stencil

open Text Parse Grammar

/-! ## Stripping and splitting grouped texts -/

section Groups

variable {α : Type} {groups : List (List α)}

/-- The part between the elements at both ends that satisfy `p`. -/
def trim (p : α → Bool) (xs : List α) : List α :=
  ((xs.dropWhile p).reverse.dropWhile p).reverse

theorem strip_eq_trim (cs : List Char) : strip cs = trim isBlank cs := rfl

theorem trim_isInfix (p : α → Bool) (xs : List α) : trim p xs <:+: xs := by
  have hback : (trim p xs).reverse <:+: (xs.dropWhile p).reverse := by
    rw [trim, List.reverse_reverse]
    exact (List.dropWhile_suffix p).isInfix
  exact (List.reverse_infix.mp hback).trans (List.dropWhile_suffix p).isInfix

/-- Of a group that starts with an element that is dropped, all are dropped. -/
theorem dropWhile_flatten {p : α → Bool}
    (h : ∀ g ∈ groups, g.head?.any p → g.all p) :
    groups.flatten.dropWhile p = (groups.dropWhile (·.all p)).flatten := by
  induction groups with
  | nil => rfl
  | cons g groups ih =>
      rw [List.forall_mem_cons] at h
      rw [List.flatten_cons, List.dropWhile_cons]
      by_cases hall : g.all p
      · rw [if_pos hall, List.dropWhile_append_of_pos (List.all_eq_true.mp hall), ih h.2]
      · rw [if_neg hall, List.flatten_cons]
        cases g with
        | nil => exact absurd rfl hall
        | cons x xs =>
            have hx : ¬p x := fun hpx => hall (h.1 hpx)
            rw [List.cons_append, List.dropWhile_cons_of_neg hx]

/-- The same at both ends. -/
theorem trim_flatten {p : α → Bool} (hhead : ∀ g ∈ groups, g.head?.any p → g.all p)
    (hlast : ∀ g ∈ groups, g.getLast?.any p → g.all p) :
    trim p groups.flatten = (trim (·.all p) groups).flatten := by
  have hreverse : ∀ g ∈ (groups.dropWhile (·.all p)).reverse.map List.reverse,
      g.head?.any p → g.all p := by
    intro g hg hany
    obtain ⟨g, hmem, rfl⟩ := List.mem_map.mp hg
    rw [List.head?_reverse] at hany
    rw [List.all_reverse]
    exact hlast g ((List.dropWhile_suffix _).subset (List.mem_reverse.mp hmem)) hany
  have hall : ((·.all p) ∘ List.reverse : List α → Bool) = (·.all p) :=
    funext fun g => List.all_reverse
  rw [trim, dropWhile_flatten hhead, List.reverse_flatten, ← List.map_reverse,
    dropWhile_flatten hreverse, List.dropWhile_map, hall, List.reverse_flatten, List.map_map,
    List.reverse_involutive.comp_self, List.map_id, trim]

variable [BEq α] [LawfulBEq α]

theorem splitOn_append {a : α} {xs : List α} (h : a ∉ xs) (ys : List α) :
    (xs ++ ys).splitOn a = (ys.splitOn a).modifyHead (xs ++ ·) := by
  induction xs with
  | nil =>
      have hid : (([] : List α) ++ ·) = id := funext List.nil_append
      rw [hid, List.modifyHead_id, id, List.nil_append]
  | cons x xs ih =>
      rw [List.mem_cons, not_or] at h
      have hx : ¬(x == a) = true := by
        rw [beq_iff_eq]
        exact Ne.symm h.1
      rw [List.cons_append, List.splitOn_cons_eq_if_modifyHead, if_neg hx, ih h.2,
        List.modifyHead_modifyHead]
      rfl

/-- Where the separator is a group of its own, the groups are split as their elements are. -/
theorem splitOn_flatten {a : α} (h : ∀ g ∈ groups, a ∈ g → g = [a]) :
    groups.flatten.splitOn a = (groups.splitOn [a]).map List.flatten := by
  induction groups with
  | nil => simp [List.splitOn_nil]
  | cons g groups ih =>
      rw [List.forall_mem_cons] at h
      rw [List.flatten_cons, List.splitOn_cons_eq_if_modifyHead]
      by_cases hg : g = [a]
      · subst hg
        rw [List.cons_append, List.nil_append, List.splitOn_cons_eq_if_modifyHead,
          if_pos BEq.rfl, if_pos BEq.rfl, ih h.2]
        rfl
      · have hne : ¬(g == [a]) = true := by rwa [beq_iff_eq]
        rw [if_neg hne, splitOn_append (fun ha => hg (h.1 ha)), ih h.2]
        cases groups.splitOn [a] <;> rfl

theorem isInfix_of_mem_splitOn {a : α} {xs piece : List α} (h : piece ∈ xs.splitOn a) :
    piece <:+: xs := by
  obtain ⟨i, hi⟩ := List.mem_iff_getElem?.mp h
  have hmem : piece ∈ (xs.splitOn a).intersperse [a] := by
    rw [← List.getElem?_intersperse_two_mul] at hi
    exact List.mem_of_getElem? hi
  have hinfix : piece <:+: [a].intercalate (xs.splitOn a) := List.infix_of_mem_flatten hmem
  rwa [List.intercalate_splitOn] at hinfix

end Groups

/-! ## Texts of whole clusters -/

/-- The text is that of some clusters of the template in a row. -/
def OfClusters (template text : String) : Prop :=
  ∃ run, run <:+: Text.segment template ∧ String.join run = text

/-- The kinds of the symbols behind which a path, a name or a parameter stands. -/
def naming : List TokenKind := [.varStart, .filter, .param]

/-- The characters of a cluster stay together when it is read behind a symbol of the kind: a blank at
either end has only blanks with it, and in a path a point is alone. -/
structure Intact (kind : TokenKind) (c : List Char) : Prop where
  first : kind ∈ naming → c.head?.any isBlank → c.all isBlank
  last : kind ∈ naming → c.getLast?.any isBlank → c.all isBlank
  point : kind = .varStart → '.' ∈ c → c = ['.']

instance (kind : TokenKind) (c : List Char) : Decidable (Intact kind c) :=
  decidable_of_iff
    ((kind ∈ naming → c.head?.any isBlank → c.all isBlank)
      ∧ (kind ∈ naming → c.getLast?.any isBlank → c.all isBlank)
      ∧ (kind = .varStart → '.' ∈ c → c = ['.']))
    ⟨fun h => ⟨h.1, h.2.1, h.2.2⟩, fun h => ⟨h.first, h.last, h.point⟩⟩

/-- The clusters of each token stay together when it is read behind the one before it. -/
def IntactTokens (tokens : List Token) : Prop :=
  ∀ pair ∈ tokens.zip tokens.tail, ∀ c ∈ Text.segment pair.2.text, Intact pair.1.kind c.toList

instance (tokens : List Token) : Decidable (IntactTokens tokens) :=
  inferInstanceAs (Decidable (∀ pair ∈ tokens.zip tokens.tail, ∀ c ∈ Text.segment pair.2.text,
    Intact pair.1.kind c.toList))

/-- The characters are those of some clusters of the template in a row, which stay together. -/
def IntactRun (kind : TokenKind) (template : String) (cs : List Char) : Prop :=
  ∃ groups, groups <:+: clusters template.toList ∧ (∀ g ∈ groups, Intact kind g)
    ∧ groups.flatten = cs

namespace IntactRun

variable {kind : TokenKind} {template : String} {cs : List Char}

theorem ofClusters (h : IntactRun kind template cs) : OfClusters template (String.ofList cs) := by
  obtain ⟨groups, hgroups, -, rfl⟩ := h
  refine ⟨groups.map String.ofList, hgroups.map String.ofList, ?_⟩
  apply String.toList_injective
  rw [String.toList_join, List.flatMap_map]
  simp only [String.toList_ofList, List.flatMap_id']

theorem strip (h : IntactRun kind template cs) (hkind : kind ∈ naming) :
    IntactRun kind template (Text.strip cs) := by
  obtain ⟨groups, hgroups, hall, rfl⟩ := h
  have hpart : trim (·.all isBlank) groups <:+: groups := trim_isInfix _ _
  refine ⟨_, hpart.trans hgroups, fun g hg => hall g (hpart.subset hg), ?_⟩
  rw [strip_eq_trim, trim_flatten (fun g hg => (hall g hg).first hkind)
    fun g hg => (hall g hg).last hkind]

theorem piece (h : IntactRun .varStart template cs) {piece : List Char}
    (hpiece : piece ∈ cs.splitOn '.') : IntactRun .varStart template piece := by
  obtain ⟨groups, hgroups, hall, rfl⟩ := h
  rw [splitOn_flatten fun g hg => (hall g hg).point rfl] at hpiece
  obtain ⟨run, hrun, rfl⟩ := List.mem_map.mp hpiece
  have hpart : run <:+: groups := isInfix_of_mem_splitOn hrun
  exact ⟨run, hpart.trans hgroups, fun g hg => hall g (hpart.subset hg), rfl⟩

end IntactRun

theorem mem_zip_tail {α : Type} {x y : α} {xs : List α} (h : [x, y] <:+: xs) :
    (x, y) ∈ xs.zip xs.tail := by
  obtain ⟨before, after, rfl⟩ := h
  induction before with
  | nil => exact List.mem_cons_self
  | cons z before ih =>
      cases before with
      | nil => exact List.mem_cons_of_mem _ ih
      | cons => exact List.mem_cons_of_mem _ ih

/-- A token that stands behind another has the clusters of the template that it is made of. -/
theorem IntactTokens.run {symbols : Symbols} {template : String}
    (h : IntactTokens (tokenize symbols template)) {u t : Token}
    (hpair : [u, t] <:+: tokenize symbols template) :
    IntactRun u.kind template t.text.toList := by
  have ht : t ∈ tokenize symbols template := hpair.subset (by simp)
  obtain ⟨run, q, hpart, hmade⟩ := exists_run_of_mem_tokensFrom ht
  have hrun : Text.segment t.text = run := hmade.text ▸ segment_join_of_infix hpart
  refine ⟨run.map String.toList, ?_, ?_, ?_⟩
  · exact map_toList_segment template ▸ hpart.map String.toList
  · intro g hg
    obtain ⟨c, hc, rfl⟩ := List.mem_map.mp hg
    exact h _ (mem_zip_tail hpair) c (hrun ▸ hc)
  · rw [hmade.text, String.toList_join, List.flatMap_def]

/-! ## The names in a tree -/

/-- The name of the filter, and the key that its parameter refers to. -/
def Call.identifiers (call : Call) : List String :=
  call.name :: (call.param.bind Param.key?).toList

/-- The segments of the path of a node itself. -/
def Node.path : Node → List String
  | .variable path _ _ => path
  | _ => []

/-- The segments, names and keys in a node itself. -/
def Node.identifiers (node : Node) : List String :=
  node.path ++ node.calls.flatMap Call.identifiers

/-- The name is read off a token behind a symbol: the whole of it, or a segment of a path. -/
inductive ReadsName (u t : Token) : String → Prop
  | whole (hu : u.kind ∈ naming) : ReadsName u t (String.ofList (strip t.text.toList))
  | segment (hu : u.kind = .varStart) {cs : List Char} (h : cs ∈ pathSegments t.text) :
      ReadsName u t (String.ofList cs)

theorem ReadsName.ofClusters {symbols : Symbols} {template name : String} {u t : Token}
    (h : ReadsName u t name) (hintact : IntactTokens (tokenize symbols template))
    (hpair : [u, t] <:+: tokenize symbols template) : OfClusters template name := by
  have hrun := hintact.run hpair
  cases h with
  | whole hu => exact (hrun.strip hu).ofClusters
  | segment hu hsegment =>
      rw [hu] at hrun
      obtain ⟨piece, hpiece, rfl⟩ := List.mem_map.mp hsegment
      exact ((hrun.piece hpiece).strip (by decide)).ofClusters

theorem Param.key_eq_of_ofText {text key : String} {param : Param}
    (h : Param.ofText text = .ok param) (hkey : param.key? = some key) :
    key = String.ofList (strip text.toList) := by
  unfold Param.ofText ofStripped at h
  split at h
  · cases h
  · split at h <;> cases h
    cases hkey
  · simp only at h
    repeat' split at h
    all_goals cases h
    all_goals cases hkey
    rfl

namespace Grammar

theorem Lexeme.mem_naming {kind : TokenKind} (x : Lexeme kind) (h : kind ∈ naming) :
    x.val.kind ∈ naming := by
  rwa [x.property]

theorem FilterText.readsName (f : FilterText) {name : String} (h : name ∈ f.call.identifiers) :
    ∃ u t, [u, t] <:+: f.tokens ∧ ReadsName u t name := by
  rw [Call.identifiers, List.mem_cons] at h
  rcases h with rfl | h
  · refine ⟨f.symbol.val, f.name.token.val, ⟨[], _, rfl⟩, ?_⟩
    exact .whole (f.symbol.mem_naming (by decide))
  · obtain ⟨symbol, nameText, _ | p⟩ := f
    · cases h
    · have hkey : p.param.key? = some name := by simpa [FilterText.call] using h
      rw [Param.key_eq_of_ofText p.valid hkey]
      refine ⟨p.symbol.val, p.token.val, ⟨[symbol.val, nameText.token.val], [], rfl⟩, ?_⟩
      exact .whole (p.symbol.mem_naming (by decide))

theorem readsName_of_mem_filters (fs : List FilterText) {name : String}
    (h : name ∈ (fs.map FilterText.call).flatMap Call.identifiers) :
    ∃ u t, [u, t] <:+: filterTokens fs ∧ ReadsName u t name := by
  obtain ⟨call, hcall, hname⟩ := List.mem_flatMap.mp h
  obtain ⟨f, hf, rfl⟩ := List.mem_map.mp hcall
  obtain ⟨u, t, hpair, hreads⟩ := f.readsName hname
  have hpart : f.tokens <:+: filterTokens fs :=
    List.infix_of_mem_flatten (List.mem_map_of_mem hf)
  exact ⟨u, t, hpair.trans hpart, hreads⟩

theorem Item.readsName {symbols : Symbols} (x : Item) {name : String}
    (h : name ∈ (x.node symbols).identifiers) :
    ∃ u t, [u, t] <:+: x.tokens ∧ ReadsName u t name := by
  cases x with
  | «variable» start path filters stop =>
      rw [Item.node] at h
      rcases List.mem_append.mp h with h | h
      · obtain ⟨cs, hcs, rfl⟩ := List.mem_map.mp h
        exact ⟨start.val, path.token.val, ⟨[], _, rfl⟩, .segment start.property hcs⟩
      · obtain ⟨u, t, hpair, hreads⟩ := readsName_of_mem_filters filters h
        have hpart : filterTokens filters <:+: Item.tokens (.variable start path filters stop) :=
          ⟨[start.val, path.token.val], [stop.val], by simp [Item.tokens]⟩
        exact ⟨u, t, hpair.trans hpart, hreads⟩
  | group start body filters stop =>
      rw [Item.node] at h
      obtain ⟨u, t, hpair, hreads⟩ := readsName_of_mem_filters filters h
      have hpart : filterTokens filters <:+: Item.tokens (.group start body filters stop) :=
        ⟨start.val :: body.tokens, [stop.val], by simp [Item.tokens]⟩
      exact ⟨u, t, hpair.trans hpart, hreads⟩

end Grammar

/-- Every name in a template is read off the text of a token behind a symbol. -/
theorem Engine.readsName_of_compile {e : Engine} {template : String} {nodes : List Node}
    (h : e.compile (.str template) = .ok nodes) {node : Node} (hnode : node ∈ Node.partsOf nodes)
    {name : String} (hname : name ∈ node.identifiers) :
    ∃ u t, [u, t] <:+: tokenize e.options.symbols template ∧ ReadsName u t name := by
  obtain ⟨d, hd, rfl⟩ := exists_items_of_compile h
  rcases d.exists_of_mem_partsOf hnode with ⟨t, -, -, rfl⟩ | ⟨x, rfl, hpart⟩
  · cases hname
  · obtain ⟨u, t, hpair, hreads⟩ := x.readsName hname
    exact ⟨u, t, hd ▸ hpair.trans hpart, hreads⟩

/--
The segments of paths, the names of filters and the keys of parameters in the nodes of a template, at
every depth, are made of whole clusters of the template, if the clusters of the literals that they are
read off stay together. What stands outside of paths, names and parameters does not matter.
-/
theorem identifiers_ofClusters (e : Engine) (template : String) (nodes : List Node)
    (hcompile : e.compile (.str template) = .ok nodes)
    (hintact : IntactTokens (tokenize e.options.symbols template)) :
    ∀ node ∈ Node.partsOf nodes, ∀ name ∈ node.identifiers, OfClusters template name := by
  intro node hnode name hname
  obtain ⟨u, t, hpair, hreads⟩ := Engine.readsName_of_compile hcompile hnode hname
  exact hreads.ofClusters hintact hpair

/-- Marks on letters stay with them, and so do blanks between names. A mark on a point is no matter
where it is not in a path. -/
theorem identifiers_ofClusters_accents :
    OfClusters ".\u0301\x7be\u0301.b | f.\u0301 = k\u0301\x7d" "e\u0301"
      ∧ OfClusters ".\u0301\x7be\u0301.b | f.\u0301 = k\u0301\x7d" "f.\u0301"
      ∧ OfClusters ".\u0301\x7be\u0301.b | f.\u0301 = k\u0301\x7d" "k\u0301" := by
  have hcompile : Engine.plain.compile
        (.str ".\u0301\x7be\u0301.b | f.\u0301 = k\u0301\x7d")
      = .ok [.literal ".\u0301",
          .variable ["e\u0301", "b"] [⟨"f.\u0301", some (.reference "k\u0301")⟩]
            "\x7be\u0301.b \x7d"] := rfl
  have hnames := identifiers_ofClusters Engine.plain _ _ hcompile (by decide +kernel) _
    (List.mem_cons_of_mem _ List.mem_cons_self)
  exact ⟨hnames _ (by decide), hnames _ (by decide), hnames _ (by decide)⟩

/-- A mark on the point of a path is taken for the start of the next segment. -/
theorem identifier_not_ofClusters :
    Engine.plain.compile (.str "\x7ba.\u0301b\x7d")
        = .ok [.variable ["a", "\u0301b"] [] "\x7ba.\u0301b\x7d"]
      ∧ ¬OfClusters "\x7ba.\u0301b\x7d" "\u0301b" := by
  refine ⟨rfl, ?_⟩
  rintro ⟨run, hrun, hjoin⟩
  have hsegment : Text.segment "\x7ba.\u0301b\x7d" = ["\x7b", "a", ".\u0301", "b", "\x7d"] := by
    decide +kernel
  -- no cluster starts with the mark
  have hfirst : ∀ c ∈ Text.segment "\x7ba.\u0301b\x7d", c.toList.head?.any (· ≠ '\u0301') := by
    rw [hsegment]
    decide
  have htext := congrArg String.toList hjoin
  cases run with
  | nil => cases htext
  | cons c run =>
      have hc := hfirst c (hrun.subset List.mem_cons_self)
      rw [String.join_cons, String.toList_append] at htext
      cases hchars : c.toList with
      | nil =>
          rw [hchars] at hc
          cases hc
      | cons x rest =>
          rw [hchars] at hc htext
          obtain rfl : x = '\u0301' := (List.cons.inj htext).1
          cases hc

end Stencil

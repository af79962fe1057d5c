import Stencil.Proofs.Compilation
import Stencil.Proofs.Lockstep

/-!
# What a template mentions

A render looks up the context and the filters by names that stand in the template: the keys that its
paths start with and its parameters refer to (`Node.keysOf`), and the names of its filters
(`Node.namesOf`). Two renders whose contexts and filters agree on these names have the same text or the
same error, and invoke the same filters with the same values (`renderStrict_mentioned`); all other keys
of the context may be bound anew, or fail, without an effect.

The filters of the two renders keep states of their own, which a relation of our choice connects. So a
filter that is not mentioned may be there in one render only, and have any state.
-/

namespace Stencil

variable {σ σ' : Type} {R : σ → σ' → Prop}

/-! ## Names in nodes -/

/-- The key that a parameter refers to. A fixed value refers to none. -/
def Param.key? : Param → Option String
  | reference key => some key
  | _ => none

namespace Node

/-- The filter calls of a node itself. -/
def calls : Node → List Call
  | .variable _ calls _ | .group _ calls => calls
  | _ => []

/-- The key that the path of a variable starts with. -/
def head? : Node → Option String
  | .variable path _ _ => path.head?
  | _ => none

/-- The keys that a node itself looks up in the context. -/
def keys (node : Node) : List String :=
  node.head?.toList ++ node.calls.filterMap fun call => call.param.bind Param.key?

/-- The keys that nodes look up in the context, at every depth. -/
def keysOf (nodes : List Node) : List String :=
  (partsOf nodes).flatMap keys

/-- The names of the filters that nodes call, at every depth. -/
def namesOf (nodes : List Node) : List String :=
  (partsOf nodes).flatMap fun node => node.calls.map (·.name)

/-- The path of the node is not empty, and the node looks up nothing but the keys and the names. -/
structure Within (keys names : List String) (node : Node) : Prop where
  path : ∀ calls source, node ≠ .variable [] calls source
  keys : ∀ key ∈ node.keys, key ∈ keys
  names : ∀ call ∈ node.calls, call.name ∈ names

theorem within_of_mem {nodes : List Node} {symbols : Symbols}
    (hmade : ∀ node ∈ partsOf nodes, node.Made symbols) {node : Node} (h : node ∈ partsOf nodes) :
    node.Within (keysOf nodes) (namesOf nodes) where
  path := by
    rintro calls source rfl
    cases hmade _ h with
    | «variable» hpath => exact hpath rfl
  keys key hkey := List.mem_flatMap.mpr ⟨node, h, hkey⟩
  names call hcall := List.mem_flatMap.mpr ⟨node, h, List.mem_map_of_mem hcall⟩

end Node

/-! ## Agreement -/

/-- Runs with connected states and the same invocations. -/
structure Run.Agree (R : σ → σ' → Prop) (run : Run σ) (run' : Run σ') : Prop where
  state : R run.state run'.state
  invocations : run.invocations = run'.invocations

/-- On connected states the two filters give the same values or faults, and connected states. -/
def Filter.Agree (R : σ → σ' → Prop) (filter : Filter σ) (filter' : Filter σ') : Prop :=
  ∀ value param state state', R state state' →
    (filter value param state).1 = (filter' value param state').1
      ∧ R (filter value param state).2 (filter' value param state').2

/-- The same filter, or the same value that is none. -/
inductive Candidate.Agree (R : σ → σ' → Prop) : Candidate σ → Candidate σ' → Prop
  | function {filter : Filter σ} {filter' : Filter σ'} (h : filter.Agree R filter') :
      Agree R (.function filter) (.function filter')
  | value (v : Value) : Agree R (.value v) (.value v)

/-- Under each of the names there is the same filter in both, or none in either. -/
def Registry.AgreeOn (R : σ → σ' → Prop) (names : List String) (filters : Registry σ)
    (filters' : Registry σ') : Prop :=
  ∀ name ∈ names, Option.Rel (Candidate.Agree R) (filters.get? name) (filters'.get? name)

/-- Reading each of the keys has the same outcome in both. -/
def Value.AgreeOn (keys : List String) (context context' : Value) : Prop :=
  ∀ key ∈ keys, context.read? key = context'.read? key

/-- Two filters that agree are invoked alike. -/
theorem Filter.Agree.invoke {filter : Filter σ} {filter' : Filter σ'} (h : filter.Agree R filter')
    (name : String) (value : Value) (param : Option Value) :
    Eval.Lockstep (Run.Agree R) Eq (filter.invoke name value param)
      (filter'.invoke name value param) := by
  intro run run' hrun
  obtain ⟨hvalue, hstate⟩ := h value param _ _ hrun.state
  simp only [Filter.invoke, hvalue, hrun.invocations]
  exact ⟨.refl (fun _ => rfl) _, hstate, rfl⟩

/-- Only the first key of a path is looked up in the context itself. -/
theorem Value.resolve?_congr {context context' : Value} {key : String}
    (h : context.read? key = context'.read? key) (path : List String) :
    context.resolve? (key :: path) = context'.resolve? (key :: path) := by
  rw [resolve?, resolve?, h]

/-! ## Nodes -/

namespace Scene

variable {scene : Scene σ} {scene' : Scene σ'} {keys names : List String}

/-- Scenes whose contexts agree on the keys, and whose filters agree on the names. -/
structure AgreeOn (R : σ → σ' → Prop) (keys names : List String) (scene : Scene σ)
    (scene' : Scene σ') : Prop where
  context : scene.context.AgreeOn keys scene'.context
  filters : scene.filters.AgreeOn R names scene'.filters

theorem AgreeOn.param (h : AgreeOn R keys names scene scene') {call : Call}
    (hkey : ∀ key, call.param.bind Param.key? = some key → key ∈ keys) :
    scene.param call = scene'.param call := by
  unfold Scene.param
  rcases hparam : call.param with _ | (value | key | typeName)
  · rfl
  · rfl
  · have hmem : key ∈ keys := hkey key (by rw [hparam]; rfl)
    simp only [Param.resolve, h.context key hmem]
  · rfl

theorem AgreeOn.applyCall (h : AgreeOn R keys names scene scene') (value : Value) {call : Call}
    (hkey : ∀ key, call.param.bind Param.key? = some key → key ∈ keys)
    (hname : call.name ∈ names) :
    Eval.Lockstep (Run.Agree R) Eq (scene.applyCall value call) (scene'.applyCall value call) := by
  have hparam : Eval.Lockstep (Run.Agree R) Eq (.ofExcept (scene.param call))
      (.ofExcept (scene'.param call)) := by
    rw [h.param hkey]
    exact .ofExcept (.refl (fun _ => rfl) _)
  have hcandidate := h.filters call.name hname
  unfold Scene.applyCall
  generalize scene.filters.get? call.name = found at hcandidate ⊢
  generalize scene'.filters.get? call.name = found' at hcandidate ⊢
  cases hcandidate with
  | none => exact .throw _
  | some hcandidate => cases hcandidate with
    | function hfilter =>
        refine hparam.bind fun param _ hp => ?_
        subst hp
        exact hfilter.invoke call.name value param
    | value v => cases v with
      | none => exact .throw _
      | bool | int | float | str | bytes | list | tuple | dict | object =>
          exact hparam.bind fun _ _ _ => .throw _

theorem AgreeOn.applyCalls (h : AgreeOn R keys names scene scene') (value : Value)
    {calls : List Call}
    (hkeys : ∀ call ∈ calls, ∀ key, call.param.bind Param.key? = some key → key ∈ keys)
    (hnames : ∀ call ∈ calls, call.name ∈ names) :
    Eval.Lockstep (Run.Agree R) Eq (scene.applyCalls value calls)
      (scene'.applyCalls value calls) := by
  induction calls generalizing value with
  | nil => exact .pure rfl
  | cons call calls ih =>
      rw [List.forall_mem_cons] at hkeys hnames
      refine (h.applyCall value hkeys.1 hnames.1).bind fun result _ hresult => ?_
      subst hresult
      exact ih result hkeys.2 hnames.2

/-- The filter calls of a node that looks up nothing else. -/
theorem AgreeOn.showFiltered (h : AgreeOn R keys names scene scene') (value : Value) {node : Node}
    (hwithin : node.Within keys names) :
    Eval.Lockstep (Run.Agree R) Eq (scene.showFiltered value node.calls)
      (scene'.showFiltered value node.calls) := by
  have hkeys : ∀ call ∈ node.calls, ∀ key, call.param.bind Param.key? = some key → key ∈ keys :=
    fun call hcall key hkey => hwithin.keys key
      (List.mem_append_right _ (List.mem_filterMap.mpr ⟨call, hcall, hkey⟩))
  refine (h.applyCalls value hkeys hwithin.names).bind fun final _ hfinal => ?_
  subst hfinal
  exact .shown final

mutual

theorem AgreeOn.renderNode (h : AgreeOn R keys names scene scene') :
    ∀ node, (∀ m ∈ node.parts, m.Within keys names) →
      Eval.Lockstep (Run.Agree R) Eq (scene.renderNode node) (scene'.renderNode node)
  | .literal text, _ => by
      rw [Scene.renderNode, Scene.renderNode]
      exact .pure rfl
  | .variable [] calls source, hwithin =>
      absurd rfl ((hwithin _ (Node.mem_parts_self _)).path calls source)
  | .variable (key :: path) calls source, hwithin => by
      have hnode := hwithin _ (Node.mem_parts_self _)
      have hkey : key ∈ keys := hnode.keys key (by simp [Node.keys, Node.head?])
      rw [Scene.renderNode, Scene.renderNode, Value.resolve?_congr (h.context key hkey) path]
      refine .bind (.ofExcept (.refl (fun _ => rfl) _)) fun found _ hfound => ?_
      subst hfound
      cases found with
      | none => exact .pure rfl
      | some value => exact h.showFiltered value hnode
  | .group children calls, hwithin => by
      have hchildren : ∀ m ∈ Node.partsOf children, m.Within keys names := fun m hm =>
        hwithin m (by rw [Node.parts]; exact List.mem_cons_of_mem _ hm)
      rw [Scene.renderNode, Scene.renderNode]
      refine .bind (AgreeOn.renderNodes h children hchildren) fun text _ htext => ?_
      subst htext
      exact h.showFiltered (.str text) (hwithin _ (Node.mem_parts_self _))
  | .unknown typeName, _ => by
      rw [Scene.renderNode, Scene.renderNode]
      exact .throw _

theorem AgreeOn.renderNodes (h : AgreeOn R keys names scene scene') :
    ∀ nodes, (∀ m ∈ Node.partsOf nodes, m.Within keys names) →
      Eval.Lockstep (Run.Agree R) Eq (scene.renderNodes nodes) (scene'.renderNodes nodes)
  | [], _ => by
      rw [Scene.renderNodes, Scene.renderNodes]
      exact .pure rfl
  | node :: nodes, hwithin => by
      rw [Node.partsOf, List.forall_mem_append] at hwithin
      rw [Scene.renderNodes, Scene.renderNodes]
      refine .bind ((AgreeOn.renderNode h node hwithin.1).mapFailure Failure.outside) ?_
      rintro first _ rfl
      refine .bind (AgreeOn.renderNodes h nodes hwithin.2) ?_
      rintro rest _ rfl
      exact .pure rfl

end

end Scene

/-! ## Renders -/

/-- Reports of the same text or error, with the same invocations and the same log. -/
structure Report.Agree {α : Type} (R : σ → σ' → Prop) (report : Report σ α)
    (report' : Report σ' α) : Prop where
  result : report.result = report'.result
  run : report.run.Agree R report'.run
  log : report.log = report'.log

/-- In no context there is nothing to read, just as in an empty one. -/
theorem Arguments.read?_contextOrEmpty (a : Arguments σ) (key : String) :
    a.contextOrEmpty.read? key = a.context.read? key := by
  unfold contextOrEmpty
  split
  · next h => rw [h]; rfl
  · rfl

namespace Engine

variable {e : Engine} {template : String} {nodes : List Node} {a : Arguments σ} {a' : Arguments σ'}

theorem agreeOn_scene {keys names : List String} (hcontext : a.context.AgreeOn keys a'.context)
    (hfilters : (e.scene a).filters.AgreeOn R names (e.scene a').filters) :
    Scene.AgreeOn R keys names (e.scene a) (e.scene a') where
  context key hkey := by
    rw [scene, scene, Arguments.read?_contextOrEmpty, Arguments.read?_contextOrEmpty]
    exact hcontext key hkey
  filters := hfilters

theorem renderStrict_agree (h : e.compile (.str template) = .ok nodes) (ha : a.Accepted)
    (ha' : a'.Accepted) (hcontext : a.context.AgreeOn (Node.keysOf nodes) a'.context)
    (hfilters : (e.scene a).filters.AgreeOn R (Node.namesOf nodes) (e.scene a').filters)
    {run : Run σ} {run' : Run σ'} (hrun : run.Agree R run') :
    (e.renderStrict (.str template) a run).Agree R (e.renderStrict (.str template) a' run') := by
  rw [renderStrict_of_compile ha h, renderStrict_of_compile ha' h]
  obtain ⟨houtcome, hnext⟩ := (agreeOn_scene hcontext hfilters).renderNodes nodes
    (fun _ hm => Node.within_of_mem (fun _ => made_of_compile h) hm) run run' hrun
  exact ⟨(houtcome.mapError RenderError.evaluation).eq, hnext, rfl⟩

end Engine

/-! ## Keys that are not mentioned -/

/-- A mapping of the caller's own with one key bound anew. -/
def Shape.rebound {α : Type} (key : String) (outcome : Except Fault α) : Shape α → Shape α
  | .mapping find => .mapping fun other => if key = other then outcome.map some else find other
  | shape => shape

/-- The context with one key bound anew. Reading the key may fail then only if the context is an
object; a value without keys stays as it is. -/
def Value.rebound (key : String) (outcome : Except Fault Value) : Value → Value
  | .object o =>
    .object
      { o with
        shape := o.shape.map (Shape.rebound key outcome)
        attributes := Entries.put o.attributes key outcome }
  | .dict entries =>
    match outcome with
    | .ok v => .dict (Entries.put entries key v)
    | .error _ => .dict entries
  | v => v

theorem readAttribute?_put {α : Type} {key other : String} (h : key ≠ other)
    (outcome : Except Fault α) (attributes : Entries (Except Fault α)) :
    readAttribute? (attributes.put key outcome) other = readAttribute? attributes other := by
  simp only [readAttribute?, Entries.get?_put, if_neg h]

theorem Value.read?_rebound {key other : String} (h : key ≠ other) (outcome : Except Fault Value)
    (v : Value) : (v.rebound key outcome).read? other = v.read? other := by
  cases v with
  | object o =>
      rcases hshape : o.shape with cause | (_ | find | item) <;>
        simp only [rebound, read?, hshape, Except.map, Shape.rebound, sequenceItem?, attribute?,
          Value.attributes, readAttribute?_put h, if_neg h]
  | dict entries => cases outcome with
    | ok v => simp only [rebound, read?, Entries.get?_put, if_neg h]
    | error cause => rfl
  | none | bool | int | float | str | bytes | list | tuple => rfl

theorem Registry.agreeOn_refl (names : List String) (filters : Registry σ) :
    filters.AgreeOn Eq names filters := by
  intro name _
  rcases filters.get? name with _ | (filter | v)
  · exact .none
  · refine .some (.function fun value param state state' hstate => ?_)
    rw [hstate]
    exact ⟨rfl, rfl⟩
  · exact .some (.value v)

theorem Report.Agree.eq {α : Type} {report report' : Report σ α} (h : report.Agree Eq report') :
    report = report' := by
  obtain ⟨result, ⟨state, invocations⟩, log⟩ := report
  obtain ⟨result', ⟨state', invocations'⟩, log'⟩ := report'
  obtain ⟨rfl, ⟨rfl, rfl⟩, rfl⟩ := h
  rfl

/--
Two renders whose contexts agree on the keys that the template mentions, and whose filters with the
built-in ones agree on the names that it mentions, have the same text or the same error, and the same
invocations. All other keys of the context may be bound anew, and fail, without an effect: the text of a
fixed parameter and the later keys of a path are not looked up there.
-/
theorem renderStrict_mentioned (e : Engine) {template : String} {nodes : List Node}
    (h : e.compile (.str template) = .ok nodes) {a : Arguments σ} {a' : Arguments σ'}
    (ha : a.Accepted) (ha' : a'.Accepted)
    (hcontext : a.context.AgreeOn (Node.keysOf nodes) a'.context)
    (hfilters : (e.scene a).filters.AgreeOn R (Node.namesOf nodes) (e.scene a').filters)
    {run : Run σ} {run' : Run σ'} (hrun : run.Agree R run') :
    (e.renderStrict (.str template) a run).Agree R (e.renderStrict (.str template) a' run')
      ∧ ∀ key ∉ Node.keysOf nodes, ∀ outcome,
          e.renderStrict (.str template) { a with context := a.context.rebound key outcome } run
            = e.renderStrict (.str template) a run := by
  refine ⟨Engine.renderStrict_agree h ha ha' hcontext hfilters hrun, fun key hkey outcome => ?_⟩
  have hsame : (a.context.rebound key outcome).AgreeOn (Node.keysOf nodes) a.context := by
    intro other hother
    exact Value.read?_rebound (ne_of_mem_of_not_mem hother hkey).symm outcome a.context
  have hrebound : Report.Agree Eq
      (e.renderStrict (.str template) ⟨a.context.rebound key outcome, a.filters⟩ run)
      (e.renderStrict (.str template) a run) :=
    Engine.renderStrict_agree (a := ⟨a.context.rebound key outcome, a.filters⟩) h ha ha hsame
      (Registry.agreeOn_refl _ _) ⟨rfl, rfl⟩
  exact hrebound.eq

/-- A filter that gives back what it is given and counts, beside another one or alone. -/
def Filters.keeping : Filters Nat :=
  .registry [("keep", .function fun value _ count => (.ok value, count + 1))]

/-- The same filter beside one that is not mentioned, which keeps what it is given. -/
def Filters.keepingBoth : Filters (Nat × List Value) :=
  .registry [("collect", .function fun value _ s => (.ok value, (s.1, value :: s.2))),
    ("keep", .function fun value _ s => (.ok value, (s.1 + 1, s.2)))]

/-- A user in a context with a reading of another key. -/
def Value.ofUser (other : String × Except Fault Value) : Value :=
  .object
    { typeName := "Context", attributes := [("user", .ok (.dict [("name", .str "ada")])), other],
      text := .ok "context", inner := .ok "context" }

/-- A mapping and an object with the same user; in the object the name alone cannot be read, though the
template has this text on a path and as a parameter. -/
theorem renderStrict_mentioned_user :
    let template : String := "\x7buser.name|keep=\"name\"\x7d [so|keep=note]"
    let nodes : List Node :=
      [.variable ["user", "name"] [⟨"keep", some (.literal (.str "name"))⟩] "\x7buser.name\x7d",
        .literal " ", .group [.literal "so"] [⟨"keep", some (.reference "note")⟩]]
    let a : Arguments Nat := ⟨.dict [("user", .dict [("name", .str "ada")])], .keeping⟩
    let a' : Arguments (Nat × List Value) :=
      ⟨.ofUser ("name", .error (.raised { name := "ValueError" } "boom")), .keepingBoth⟩
    let connected : Nat → Nat × List Value → Prop := fun count s => count = s.1
    Engine.plain.compile (.str template) = .ok nodes ∧ a.Accepted ∧ a'.Accepted
      ∧ a.context.AgreeOn (Node.keysOf nodes) a'.context
      ∧ (Engine.plain.scene a).filters.AgreeOn connected (Node.namesOf nodes)
          (Engine.plain.scene a').filters
      ∧ Run.Agree connected ⟨0, []⟩ ⟨(0, [.none]), []⟩
      ∧ (Engine.plain.renderStrict (.str template) a ⟨0, []⟩).Agree connected
          (Engine.plain.renderStrict (.str template) a' ⟨(0, [.none]), []⟩)
      ∧ (Engine.plain.renderStrict (.str template) a ⟨0, []⟩).result = .ok "ada so" := by
  intro template nodes a a' connected
  have hcompile : Engine.plain.compile (.str template) = .ok nodes := by
    subst template nodes
    rfl
  have ha : a.Accepted := ⟨_, rfl, by simp [Registry.Callable]⟩
  have ha' : a'.Accepted := ⟨_, rfl, by simp [Registry.Callable]⟩
  have hcontext : a.context.AgreeOn (Node.keysOf nodes) a'.context := by
    intro key hkey
    have hmem : key = "user" ∨ key = "note" := by
      simpa [nodes, Node.keysOf, Node.partsOf, Node.parts, Node.keys, Node.head?, Node.calls,
        Param.key?] using hkey
    have hpublic : "user".startsWith "_" = false ∧ "note".startsWith "_" = false := by
      decide +kernel
    rcases hmem with rfl | rfl <;>
      simp [a, a', Value.ofUser, Value.read?, Value.attribute?, readAttribute?, Value.attributes,
        Entries.get?, Except.mapError, hpublic]
  have hfilters : (Engine.plain.scene a).filters.AgreeOn connected (Node.namesOf nodes)
      (Engine.plain.scene a').filters := by
    intro name hname
    have hmem : name = "keep" := by
      simpa [nodes, Node.namesOf, Node.partsOf, Node.parts, Node.calls] using hname
    subst hmem
    exact .some (.function fun value param count s hstate =>
      ⟨rfl, congrArg (· + 1) hstate⟩)
  have hrun : Run.Agree connected ⟨0, []⟩ ⟨(0, [.none]), []⟩ := ⟨rfl, rfl⟩
  exact ⟨hcompile, ha, ha', hcontext, hfilters, hrun,
    (renderStrict_mentioned Engine.plain hcompile ha ha' hcontext hfilters hrun).1,
    by decide +kernel⟩

end Stencil

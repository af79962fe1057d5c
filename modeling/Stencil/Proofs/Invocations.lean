import Stencil.Proofs.Evaluation
import Stencil.Proofs.Reading

/-!
# The order of invocations

The filter calls that are due are read off the nodes: depth first and from left to right, those of a
variable only if its path has a value, those of a group behind those of its children. A render
invokes filters for a prefix of these calls, in that order, and for all of them if it has a text
(`filters_invoked_in_order`). Each invocation gets what its place in the chain says: the value of
the variable, the text of the group, or what the call before gave. A failure that names a filter is
that of the last invocation, or of the next call that is due, whose filter could not be invoked.

A part of a render is followed from what was done before it (`Scene.Follows`), since the first call
of a group refers back to the start of its children.
-/

namespace Stencil

/-! ## The calls that are due -/

/-- Where the first argument for a call comes from. -/
inductive Input where
  /-- The value of a variable. -/
  | value (found : Value)
  /-- The text of the children of a group. -/
  | text (children : List Node)
  /-- What the call before it gave. -/
  | previous

/-- A filter call that is due, with the origin of its first argument. -/
structure Due where
  call : Call
  input : Input

/-- The calls of one variable or group. -/
def dueInChain (first : Input) : List Call → List Due
  | [] => []
  | call :: calls => ⟨call, first⟩ :: calls.map (⟨·, .previous⟩)

mutual

/-- The calls that are due for a node. -/
def Node.due (context : Value) : Node → List Due
  | .literal _ => []
  | .variable path filters _ =>
    match context.resolve? path with
    | .ok (some found) => dueInChain (.value found) filters
    | _ => []
  | .group children filters => Node.dueIn context children ++ dueInChain (.text children) filters
  | .unknown _ => []

/-- The calls that are due for some nodes. -/
def Node.dueIn (context : Value) : List Node → List Due
  | [] => []
  | node :: nodes => node.due context ++ Node.dueIn context nodes

end

/-! ## Invocations -/

variable {σ : Type}

/-- An invocation for a call: the filter, its arguments, and the run on which it is invoked. -/
structure Applied (σ : Type) where
  call : Call
  filter : Filter σ
  value : Value
  param : Option Value
  run : Run σ

namespace Applied

/-- How the invocation is recorded. -/
def invocation (x : Applied σ) : Invocation :=
  ⟨x.call.name, x.value, x.param⟩

def result (x : Applied σ) : Except Fault Value :=
  (x.filter x.value x.param x.run.state).1

/-- The run that the invocation leaves. -/
def after (x : Applied σ) : Run σ where
  state := (x.filter x.value x.param x.run.state).2
  invocations := x.invocation :: x.run.invocations

end Applied

/-- The run after some invocations, one after the other, of which the first is made on `origin`. -/
def runAfter (origin : Run σ) (done : List (Applied σ)) : Run σ :=
  done.getLast?.elim origin Applied.after

@[simp] theorem runAfter_concat (origin : Run σ) (done : List (Applied σ)) (x : Applied σ) :
    runAfter origin (done ++ [x]) = x.after := by
  simp [runAfter]

/-- All of the invocations gave a value. -/
def AllGave (done : List (Applied σ)) : Prop :=
  ∀ x ∈ done, ∃ v, x.result = .ok v

namespace Scene

variable {scene : Scene σ} {origin : Run σ}

/-- After the invocations `past`, this value is what the first argument for a call has to be. -/
def Gives (scene : Scene σ) (origin : Run σ) (past : List (Applied σ)) : Input → Value → Prop
  | .value found, v => v = found
  | .text children, v =>
    ∃ before inside text, past = before ++ inside
      ∧ inside.length = (Node.dueIn scene.context children).length
      ∧ scene.renderNodes children (runAfter origin before) = (.ok text, runAfter origin past)
      ∧ v = .str text
  | .previous, v => ∃ x ∈ past.getLast?, x.result = .ok v

/-- After the invocations `past`, this one is what a due call asks for: the filter of that name,
with a parameter just if the call has one. -/
structure Answers (scene : Scene σ) (origin : Run σ) (past : List (Applied σ)) (due : Due)
    (x : Applied σ) : Prop where
  call : x.call = due.call
  filter : scene.filters.get? x.call.name = some (.function x.filter)
  value : scene.Gives origin past due.input x.value
  param : scene.param x.call = .ok x.param
  run : x.run = runAfter origin past

/-- After the invocations `past`, those of `done` answer the first of the due calls, one by one. -/
def Performs (scene : Scene σ) (origin : Run σ) :
    List (Applied σ) → List Due → List (Applied σ) → Prop
  | _, _, [] => True
  | past, due :: dues, x :: done =>
    scene.Answers origin past due x ∧ Performs scene origin (past ++ [x]) dues done
  | _, [], _ :: _ => False

/-- No filter can be invoked for the call: none has its name, or what has it is no filter, or the
parameter cannot be read. -/
inductive Uncallable (scene : Scene σ) (call : Call) : Failure → Prop
  | missing (h : scene.filters.get? call.name = none) :
      Uncallable scene call (.unknownFilter call.name)
  | empty (h : scene.filters.get? call.name = some (.value .none)) :
      Uncallable scene call (.unknownFilter call.name)
  | value {v : Value} (h : scene.filters.get? call.name = some (.value v)) (hv : v ≠ .none) :
      Uncallable scene call (.filterFailed call.name (.fault (.notCallable v.typeName)))
  | param {p : Param} {cause : Failure} (hp : call.param = some p)
      (h : p.resolve scene.context = .error cause) :
      Uncallable scene call (.filterFailed call.name cause)

/-- How an evaluation ends for which these calls are due: all of them are done, or the last
invocation failed, or the next call cannot be done, or something else failed that names no filter.
-/
def Ends {α : Type} (scene : Scene σ) (dues : List Due) (done : List (Applied σ)) :
    Except Failure α → Prop
  | .ok _ => done.length = dues.length ∧ AllGave done
  | .error failure =>
    (∃ before x cause, done = before ++ [x] ∧ AllGave before ∧ x.result = .error cause
        ∧ failure = .filterFailed x.call.name (.fault cause))
      ∨ (∃ due, dues[done.length]? = some due ∧ AllGave done ∧ scene.Uncallable due.call failure)
      ∨ (AllGave done ∧ failure.filterName? = none)

/-- After the invocations `past`, an evaluation with this outcome does the due calls. -/
def Follows {α : Type} (scene : Scene σ) (origin : Run σ) (past : List (Applied σ))
    (dues : List Due) (outcome : Except Failure α × Run σ) : Prop :=
  ∃ done, scene.Performs origin past dues done ∧ outcome.2 = runAfter origin (past ++ done)
    ∧ scene.Ends dues done outcome.1

/-! ## Putting parts together -/

theorem Performs.append_dues {past : List (Applied σ)} {dues : List Due} {done : List (Applied σ)}
    (h : scene.Performs origin past dues done) (later : List Due) :
    scene.Performs origin past (dues ++ later) done := by
  induction done generalizing past dues with
  | nil => exact trivial
  | cons x done ih =>
      cases dues with
      | nil => exact h.elim
      | cons due dues => exact ⟨h.1, ih h.2⟩

theorem Performs.append {past : List (Applied σ)} {dues dues' : List Due}
    {done done' : List (Applied σ)} (h : scene.Performs origin past dues done)
    (hlength : done.length = dues.length) (h' : scene.Performs origin (past ++ done) dues' done') :
    scene.Performs origin past (dues ++ dues') (done ++ done') := by
  induction done generalizing past dues with
  | nil =>
      obtain rfl := List.eq_nil_of_length_eq_zero hlength.symm
      rwa [List.append_nil] at h'
  | cons x done ih =>
      cases dues with
      | nil => exact h.elim
      | cons due dues =>
          refine ⟨h.1, ih h.2 (Nat.succ.inj hlength) ?_⟩
          rwa [List.append_assoc]

/-- The invocations by their places. -/
theorem Performs.get {past : List (Applied σ)} {dues : List Due} {done : List (Applied σ)}
    (h : scene.Performs origin past dues done) {before after : List (Applied σ)} {x : Applied σ}
    (hx : done = before ++ x :: after) :
    ∃ due, dues[before.length]? = some due ∧ scene.Answers origin (past ++ before) due x := by
  induction before generalizing past dues done with
  | nil =>
      subst hx
      cases dues with
      | nil => exact h.elim
      | cons due dues => exact ⟨due, rfl, by rw [List.append_nil]; exact h.1⟩
  | cons y before ih =>
      subst hx
      cases dues with
      | nil => exact h.elim
      | cons due dues =>
          obtain ⟨due', hget, hanswers⟩ := ih h.2 rfl
          refine ⟨due', hget, ?_⟩
          rwa [List.append_assoc] at hanswers

variable {α β : Type}

theorem Ends.append_dues {dues : List Due} {done : List (Applied σ)} {failure : Failure}
    (h : scene.Ends dues done (.error failure : Except Failure α)) (later : List Due) :
    scene.Ends (dues ++ later) done (.error failure : Except Failure β) := by
  rcases h with hlast | ⟨due, hdue, hnext⟩ | hother
  · exact .inl hlast
  · refine .inr (.inl ⟨due, ?_, hnext⟩)
    rwa [List.getElem?_append_left (List.getElem?_eq_some_iff.mp hdue).1]
  · exact .inr (.inr hother)

/-- Behind calls that are all done the others go on. -/
theorem Ends.append {dues dues' : List Due} {done done' : List (Applied σ)}
    {result : Except Failure α} (hlength : done.length = dues.length) (hgave : AllGave done)
    (h : scene.Ends dues' done' result) : scene.Ends (dues ++ dues') (done ++ done') result := by
  have hall : ∀ {xs : List (Applied σ)}, AllGave xs → AllGave (done ++ xs) := fun hxs x hx =>
    (List.mem_append.mp hx).elim (hgave x) (hxs x)
  cases result with
  | ok value =>
      refine ⟨?_, hall h.2⟩
      rw [List.length_append, List.length_append, hlength, h.1]
  | error failure =>
      rcases h with ⟨before, x, cause, rfl, hbefore, hx⟩ | ⟨due, hdue, hdone, hnext⟩ |
        ⟨hdone, hname⟩
      · exact .inl ⟨done ++ before, x, cause, (List.append_assoc ..).symm, hall hbefore, hx⟩
      · refine .inr (.inl ⟨due, ?_, hall hdone, hnext⟩)
        rwa [List.length_append, hlength, List.getElem?_append_right (Nat.le_add_right ..),
          Nat.add_sub_cancel_left]
      · exact .inr (.inr ⟨hall hdone, hname⟩)

theorem Follows.error {past : List (Applied σ)} {dues : List Due} {failure : Failure} {run : Run σ}
    (h : scene.Follows origin past dues ((.error failure : Except Failure α), run))
    (later : List Due) :
    scene.Follows origin past (dues ++ later) ((.error failure : Except Failure β), run) := by
  obtain ⟨done, hperforms, hrun, hends⟩ := h
  exact ⟨done, hperforms.append_dues later, hrun, hends.append_dues later⟩

/-- One part has a value, and the next one starts where it ended. -/
theorem Follows.andThen {past : List (Applied σ)} {dues dues' : List Due} {value : α} {run : Run σ}
    {outcome : Except Failure β × Run σ} (h : scene.Follows origin past dues (.ok value, run))
    (h' : ∀ done, done.length = dues.length → run = runAfter origin (past ++ done) →
      scene.Follows origin (past ++ done) dues' outcome) :
    scene.Follows origin past (dues ++ dues') outcome := by
  obtain ⟨done, hperforms, hrun, hlength, hgave⟩ := h
  obtain ⟨done', hperforms', hrun', hends'⟩ := h' done hlength hrun
  rw [List.append_assoc] at hrun'
  exact ⟨done ++ done', hperforms.append hlength hperforms', hrun', hends'.append hlength hgave⟩

theorem Follows.nothing {past : List (Applied σ)} {value : α} :
    scene.Follows origin past [] (.ok value, runAfter origin past) :=
  ⟨[], trivial, by rw [List.append_nil], rfl, nofun⟩

/-- What fails without the name of a filter may come before any due call. -/
theorem Follows.fault {past : List (Applied σ)} (dues : List Due) {failure : Failure}
    (h : failure.filterName? = none) :
    scene.Follows origin past dues
      ((.error failure : Except Failure α), runAfter origin past) :=
  ⟨[], trivial, by rw [List.append_nil], .inr (.inr ⟨nofun, h⟩)⟩

/-- The last step of an evaluation may fail instead, without the name of a filter. -/
theorem Follows.finish {past : List (Applied σ)} {dues : List Due} {value : α} {run : Run σ}
    (h : scene.Follows origin past dues (.ok value, run)) {result : Except Failure β}
    (hresult : ∀ failure, result = .error failure → failure.filterName? = none) :
    scene.Follows origin past dues (result, run) := by
  obtain ⟨done, hperforms, hrun, hlength, hgave⟩ := h
  refine ⟨done, hperforms, hrun, ?_⟩
  cases result with
  | ok value => exact ⟨hlength, hgave⟩
  | error failure => exact .inr (.inr ⟨hgave, hresult failure rfl⟩)

theorem Follows.map {past : List (Applied σ)} {dues : List Due}
    {outcome : Except Failure α × Run σ} (h : scene.Follows origin past dues outcome) (f : α → β) :
    scene.Follows origin past dues (outcome.1.map f, outcome.2) := by
  obtain ⟨done, hperforms, hrun, hends⟩ := h
  refine ⟨done, hperforms, hrun, ?_⟩
  cases houtcome : outcome.1 <;> rw [houtcome] at hends <;> exact hends

/-! ## Chains of calls -/

/-- A call invokes the filter of its name, or none can be invoked and the run stays as it is. -/
theorem applyCall_cases (scene : Scene σ) (value : Value) (call : Call) (run : Run σ) :
    (∃ x : Applied σ, x.call = call ∧ x.value = value ∧ x.run = run
        ∧ scene.filters.get? call.name = some (.function x.filter)
        ∧ scene.param call = .ok x.param
        ∧ scene.applyCall value call run
          = (x.result.mapError fun cause => .filterFailed call.name (.fault cause), x.after))
      ∨ ∃ failure, scene.Uncallable call failure
          ∧ scene.applyCall value call run = (.error failure, run) := by
  have hparam : ∀ failure, scene.param call = .error failure → scene.Uncallable call failure := by
    intro failure h
    unfold Scene.param at h
    split at h
    · cases h
    · next p hp =>
        cases hresolve : p.resolve scene.context with
        | ok v => rw [hresolve] at h; cases h
        | error cause => rw [hresolve] at h; cases h; exact .param hp hresolve
  rcases hget : scene.filters.get? call.name with _ | (filter | v)
  · exact .inr ⟨_, .missing hget, by rw [applyCall, hget]; rfl⟩
  · cases hp : scene.param call with
    | error failure => exact .inr ⟨failure, hparam failure hp, by rw [applyCall, hget, hp]; rfl⟩
    | ok param =>
        exact .inl ⟨⟨call, filter, value, param, run⟩, rfl, rfl, rfl, rfl, rfl,
          by rw [applyCall, hget, hp]; rfl⟩
  · cases v with
    | none => exact .inr ⟨_, .empty hget, by rw [applyCall, hget]; rfl⟩
    | bool | int | float | str | bytes | list | tuple | dict | object =>
        cases hp : scene.param call with
        | error failure => exact .inr ⟨failure, hparam failure hp, by rw [applyCall, hget, hp]; rfl⟩
        | ok param => exact .inr ⟨_, .value hget nofun, by rw [applyCall, hget, hp]; rfl⟩

theorem dueInChain_previous (calls : List Call) :
    dueInChain .previous calls = calls.map (⟨·, .previous⟩) := by
  cases calls <;> rfl

theorem applyCalls_cons_error {value : Value} {call : Call} {calls : List Call} {run run' : Run σ}
    {failure : Failure} (h : scene.applyCall value call run = (.error failure, run')) :
    scene.applyCalls value (call :: calls) run = (.error failure, run') := by
  simp only [applyCalls, bind, ExceptT.bind, ExceptT.mk, StateT.bind, h]
  rfl

theorem applyCalls_cons_ok {value next : Value} {call : Call} {calls : List Call}
    {run run' : Run σ} (h : scene.applyCall value call run = (.ok next, run')) :
    scene.applyCalls value (call :: calls) run = scene.applyCalls next calls run' := by
  simp only [applyCalls, bind, ExceptT.bind, ExceptT.mk, StateT.bind, h]
  rfl

theorem applyCalls_follows {first : Input} {value : Value} {past : List (Applied σ)}
    (hfirst : scene.Gives origin past first value) (calls : List Call) :
    scene.Follows origin past (dueInChain first calls)
      (scene.applyCalls value calls (runAfter origin past)) := by
  induction calls generalizing first value past with
  | nil => exact .nothing
  | cons call calls ih =>
      rcases scene.applyCall_cases value call (runAfter origin past) with
        ⟨x, hcall, hvalue, hxrun, hfilter, hparam, heq⟩ | ⟨failure, huncallable, heq⟩
      · subst hcall hvalue
        have hanswers : scene.Answers origin past ⟨x.call, first⟩ x :=
          ⟨rfl, hfilter, hfirst, hparam, hxrun⟩
        cases hresult : x.result with
        | error cause =>
            rw [hresult] at heq
            rw [applyCalls_cons_error heq]
            refine ⟨[x], ⟨hanswers, trivial⟩, (runAfter_concat ..).symm, ?_⟩
            exact .inl ⟨[], x, cause, rfl, nofun, hresult, rfl⟩
        | ok next =>
            have hnext : scene.Gives origin (past ++ [x]) .previous next :=
              ⟨x, by simp, hresult⟩
            have hrest := ih hnext
            rw [runAfter_concat, dueInChain_previous] at hrest
            obtain ⟨done, hperforms, hafter, hends⟩ := hrest
            have hgave : AllGave [x] := by simp [AllGave, hresult]
            have hlength : [x].length = [(⟨x.call, first⟩ : Due)].length := rfl
            rw [hresult] at heq
            rw [applyCalls_cons_ok heq]
            refine ⟨x :: done, ⟨hanswers, hperforms⟩, ?_, hends.append hlength hgave⟩
            rw [List.append_cons]
            exact hafter
      · rw [applyCalls_cons_error heq]
        exact ⟨[], trivial, by rw [List.append_nil], .inr (.inl ⟨_, rfl, nofun, huncallable⟩)⟩

theorem filterName?_of_shown {value : Value} {failure : Failure}
    (h : value.shown.mapError Failure.fault = .error failure) : failure.filterName? = none := by
  cases hshown : value.shown with
  | ok text => rw [hshown] at h; cases h
  | error cause => rw [hshown] at h; cases h; rfl

theorem showFiltered_follows {first : Input} {value : Value} {past : List (Applied σ)}
    (hfirst : scene.Gives origin past first value) (calls : List Call) :
    scene.Follows origin past (dueInChain first calls)
      (scene.showFiltered value calls (runAfter origin past)) := by
  have hcalls := applyCalls_follows hfirst calls
  rw [showFiltered_run]
  rcases hrun : scene.applyCalls value calls (runAfter origin past) with ⟨failure | final, run⟩
  · rw [hrun] at hcalls
    have hfailure : scene.Follows origin past (dueInChain first calls ++ [])
        ((.error failure : Except Failure String), run) := hcalls.error []
    rwa [List.append_nil] at hfailure
  · rw [hrun] at hcalls
    exact hcalls.finish fun _ => filterName?_of_shown

/-! ## Nodes -/

theorem filterName?_of_resolve? {value : Value} {path : List String} {failure : Failure}
    (h : value.resolve? path = .error failure) : failure.filterName? = none := by
  obtain ⟨owner, key, -, hread⟩ := Value.resolve?_error_iff.mp h
  rcases Value.read?_error hread with ⟨cause, rfl, -⟩ | ⟨cause, rfl, -⟩ <;> rfl

theorem Ends.outside {dues : List Due} {done : List (Applied σ)} {failure : Failure}
    (h : scene.Ends dues done (.error failure : Except Failure α)) :
    scene.Ends dues done (.error failure.outside : Except Failure α) := by
  rcases h with ⟨before, x, cause, hdone, hbefore, hx, rfl⟩ | ⟨due, hdue, hdone, hnext⟩ |
    ⟨hdone, hname⟩
  · exact .inl ⟨before, x, cause, hdone, hbefore, hx, rfl⟩
  · refine .inr (.inl ⟨due, hdue, hdone, ?_⟩)
    cases hnext with
    | missing h => exact .missing h
    | empty h => exact .empty h
    | value h hv => exact .value h hv
    | param hp h => exact .param hp h
  · refine .inr (.inr ⟨hdone, ?_⟩)
    cases failure with
    | fault cause => cases cause <;> rfl
    | unknownFilter | filterFailed | readFailed => exact hname

theorem Follows.outside {past : List (Applied σ)} {dues : List Due} {failure : Failure}
    {run : Run σ} (h : scene.Follows origin past dues ((.error failure : Except Failure α), run)) :
    scene.Follows origin past dues ((.error failure.outside : Except Failure α), run) := by
  obtain ⟨done, hperforms, hrun, hends⟩ := h
  exact ⟨done, hperforms, hrun, hends.outside⟩

mutual

theorem renderNode_follows (scene : Scene σ) : ∀ (node : Node) (past : List (Applied σ)),
    scene.Follows origin past (node.due scene.context)
      (scene.renderNode node (runAfter origin past))
  | .literal text, past => by
      rw [Node.due, renderNode]
      exact .nothing
  | .unknown typeName, past => by
      rw [Node.due, renderNode]
      exact .fault _ rfl
  | .variable path filters source, past => by
      rw [Node.due, renderNode_variable_run]
      cases hpath : scene.context.resolve? path with
      | error failure => exact .fault _ (filterName?_of_resolve? hpath)
      | ok found => cases found with
        | none => exact .nothing
        | some found =>
            have hfirst : scene.Gives origin past (.value found) found := rfl
            exact showFiltered_follows hfirst filters
  | .group children filters, past => by
      have hchildren := renderNodes_follows scene children past
      rw [Node.due, renderNode_group_run]
      rcases hrun : scene.renderNodes children (runAfter origin past) with ⟨failure | text, run⟩
      · rw [hrun] at hchildren
        exact hchildren.error _
      · rw [hrun] at hchildren
        refine hchildren.andThen fun done hlength hafter => ?_
        subst hafter
        -- the calls of the group refer back to where its children started
        have hfirst : scene.Gives origin (past ++ done) (.text children) (.str text) :=
          ⟨past, done, text, rfl, hlength, hrun, rfl⟩
        exact showFiltered_follows hfirst filters

theorem renderNodes_follows (scene : Scene σ) : ∀ (nodes : List Node) (past : List (Applied σ)),
    scene.Follows origin past (Node.dueIn scene.context nodes)
      (scene.renderNodes nodes (runAfter origin past))
  | [], past => by
      rw [Node.dueIn, renderNodes]
      exact .nothing
  | node :: nodes, past => by
      have hnode := renderNode_follows scene node past
      rw [Node.dueIn, renderNodes_cons_run]
      rcases hrun : scene.renderNode node (runAfter origin past) with ⟨failure | first, run⟩
      · rw [hrun] at hnode
        exact hnode.outside.error _
      · rw [hrun] at hnode
        refine hnode.andThen fun done hlength hafter => ?_
        subst hafter
        exact (renderNodes_follows scene nodes (past ++ done)).map (first ++ ·)

end

end Scene

/-! ## Whole renders -/

end Stencil

import Stencil.Proofs.Boundaries
import Stencil.Proofs.Renaming

/-!
# Configuring again

Options can be configured from options, so that a configuration can be changed step by step. This
comes to the same as one configuration with all the overrides, the later ones over the earlier ones
(`configure_composes`), for two reasons. Layers of values can be put over one another from either end
(`Entries.putAll_putAll`). And options that have been read can stand in for the named values that
they were read from, whatever is put over these (`Options.ofFields_over`): a value that is replaced
later is not missed, and one that stays is read again as it was. The last is all that is asked of the
readers of the fields (`FieldReaders.Faithful`).

However options are reached, their symbols are six clusters that make up the symbol text.
-/

namespace Stencil

open Text

/-! ## Values over values -/

namespace Entries

variable {α : Type}

theorem mem_names_put {es : Entries α} {name other : String} {value : α} :
    other ∈ (es.put name value).names ↔ other = name ∨ other ∈ es.names := by
  have hget := es.get?_put name other value
  rw [← not_iff_not, ← get?_eq_none_iff, hget, not_or, ← get?_eq_none_iff]
  split
  · next h => exact iff_of_false (Option.some_ne_none _) fun hne => hne.1 h.symm
  · next h => exact (and_iff_right (Ne.symm h)).symm

theorem nodup_put {es : Entries α} (h : es.names.Nodup) (name : String) (value : α) :
    (es.put name value).names.Nodup := by
  induction es with
  | nil => exact List.pairwise_singleton ..
  | cons e es ih =>
      rw [names, List.map_cons, ← names, List.nodup_cons] at h
      rw [put]
      split
      · exact List.nodup_cons.mpr h
      · next hname =>
          refine List.nodup_cons.mpr ⟨fun hmem => ?_, ih h.2⟩
          exact (mem_names_put.mp hmem).elim hname h.1

theorem nodup_putAll {es : Entries α} (h : es.names.Nodup) (more : Entries α) :
    (es.putAll more).names.Nodup := by
  induction more generalizing es with
  | nil => exact h
  | cons e more ih => exact ih (nodup_put h e.1 e.2)

theorem put_put (es : Entries α) (name : String) (v w : α) :
    (es.put name v).put name w = es.put name w := by
  induction es with
  | nil => simp [put]
  | cons e es ih =>
      by_cases h : e.1 = name
      · simp [put, h]
      · simp [put, h, ih]

/-- A name that has its place can be given its value before or after another name. -/
theorem put_comm {es : Entries α} {name other : String} (hmem : name ∈ es.names)
    (hne : other ≠ name) (v w : α) :
    (es.put other w).put name v = (es.put name v).put other w := by
  induction es with
  | nil => cases hmem
  | cons e es ih =>
      by_cases hname : e.1 = name
      · simp [put, hname, hne.symm]
      · have hrest : name ∈ names es :=
          (List.mem_cons.mp hmem).resolve_left fun h => hname h.symm
        by_cases hother : e.1 = other
        · simp [put, hother, hne]
        · simp [put, hname, hother, ih hrest]

theorem put_putAll {es more : Entries α} {name : String} (hmem : name ∈ es.names)
    (hnot : name ∉ more.names) (v : α) :
    (es.putAll more).put name v = (es.put name v).putAll more := by
  induction more generalizing es with
  | nil => rfl
  | cons e more ih =>
      rw [names, List.map_cons, List.mem_cons, not_or] at hnot
      have hput : name ∈ (es.put e.1 e.2).names := mem_names_put.mpr (.inr hmem)
      have hswap := put_comm hmem (Ne.symm hnot.1) v e.2
      exact (ih hput hnot.2).trans (congrArg (putAll · more) hswap)

theorem putAll_put {more : Entries α} (h : more.names.Nodup) (es : Entries α) (name : String)
    (v : α) : es.putAll (more.put name v) = (es.putAll more).put name v := by
  induction more generalizing es with
  | nil => rfl
  | cons e more ih =>
      obtain ⟨n, w⟩ := e
      rw [names, List.map_cons, ← names, List.nodup_cons] at h
      rw [put]
      split
      · next hname =>
          subst hname
          -- the first value has given the name its place, so the second can come at the end
          have hmem : n ∈ (es.put n w).names := mem_names_put.mpr (.inl rfl)
          have hlate := put_putAll hmem h.1 v
          rw [put_put] at hlate
          exact hlate.symm
      · exact ih h.2 (es.put n w)

/-- Values over values, and more values over these, can be put together from either end. -/
theorem putAll_putAll {more : Entries α} (h : more.names.Nodup) (es last : Entries α) :
    es.putAll (more.putAll last) = (es.putAll more).putAll last := by
  induction last generalizing more with
  | nil => rfl
  | cons e last ih =>
      exact (ih (nodup_put h e.1 e.2)).trans (congrArg (putAll · last) (putAll_put h es e.1 e.2))

theorem filter_put (p : String → Bool) (es : Entries α) (name : String) (value : α) :
    (es.put name value).filter (fun e => p e.1)
      = if p name then put (es.filter fun e => p e.1) name value else es.filter fun e => p e.1 := by
  induction es with
  | nil => cases hp : p name <;> simp [put, hp]
  | cons e es ih =>
      by_cases hname : e.1 = name
      · cases hp : p name <;> simp [put, hname, hp]
      · cases he : p e.1 <;> cases hp : p name <;> simp [put, hname, he, hp, ih]

/-- What a test of names keeps can be picked before or after values are put over values. -/
theorem filter_putAll (p : String → Bool) (es more : Entries α) :
    (es.putAll more).filter (fun e => p e.1)
      = putAll (es.filter fun e => p e.1) (more.filter fun e => p e.1) := by
  induction more generalizing es with
  | nil => rfl
  | cons e more ih =>
      refine (ih (es.put e.1 e.2)).trans ?_
      rw [filter_put, List.filter_cons]
      split <;> rfl

theorem put_of_not_mem {es : Entries α} {name : String} (h : name ∉ es.names) (value : α) :
    es.put name value = es ++ [(name, value)] := by
  induction es with
  | nil => rfl
  | cons e es ih =>
      rw [names, List.map_cons, List.mem_cons, not_or] at h
      rw [put, if_neg (Ne.symm h.1), ih h.2, List.cons_append]

/-- Values for other names stand behind the values that are there. -/
theorem putAll_of_nodup {es more : Entries α} (h : (names (es ++ more)).Nodup) :
    es.putAll more = es ++ more := by
  induction more generalizing es with
  | nil => exact (List.append_nil es).symm
  | cons e more ih =>
      have hnot : e.1 ∉ es.names := by
        rw [names, List.map_append, List.map_cons] at h
        exact fun hmem => (List.nodup_append.mp h).2.2 e.1 hmem e.1 List.mem_cons_self rfl
      have hput : es.put e.1 e.2 = es ++ [e] := put_of_not_mem hnot e.2
      rw [← List.singleton_append, ← List.append_assoc] at h ⊢
      rw [← ih h, ← hput]
      rfl

end Entries

/-! ## Options in the place of named values -/

/-- A field that is read keeps its value when it is written as `v`, whatever is put over it. -/
theorem readField_over {α : Type} {F G : Entries Value} {name : String}
    {absent : Except FieldCause α} {read : Value → Except FieldCause α} {x default : α} {v : Value}
    (habsent : absent = .ok default) (hF : readField F name absent read = .ok x)
    (hG : G.get? name = some v) (hv : read v = .ok x) (more : Entries Value) :
    readField (G.putAll more) name absent read = readField (F.putAll more) name absent read := by
  subst habsent
  unfold readField at hF ⊢
  rw [Entries.get?_putAll, Entries.get?_putAll]
  cases hmore : Entries.get? more.reverse name with
  | some w => rfl
  | none =>
      simp only [Option.none_or, hG, hv]
      exact hF.symm

/-- What has been read is read again as it is: a text as that text, and a truth value as that truth
value. How else texts and truth values may be given, and what is refused, is left open. -/
structure FieldReaders.Faithful (r : FieldReaders) : Prop where
  text (s : String) : r.text (.str s) = .ok s
  flag (b : Bool) : r.flag (.bool b) = .ok b

theorem FieldReaders.lax_faithful : lax.Faithful where
  text _ := rfl
  flag _ := rfl

namespace Options

variable (r : FieldReaders)

def readTokens (fields : Entries Value) : Except FieldError Tokens :=
  readField fields "tokens" (Tokens.ofText defaultTokens) fun v => (r.text v).bind Tokens.ofText

def readThrows (fields : Entries Value) : Except FieldError Bool :=
  readField fields "throws" (.ok false) r.flag

def readBuiltins (fields : Entries Value) : Except FieldError Bool :=
  readField fields "builtins" (.ok true) r.flag

/-- The entries whose names are no option. -/
def unknown (fields : Entries Value) : Entries Value :=
  fields.filter fun e => !decide (e.1 ∈ fieldNames)

theorem filterMap_unknown (fields : Entries Value) :
    (fields.filterMap fun (name, v) =>
        if name ∈ fieldNames then none else some (FieldError.mk name .unknown v))
      = (unknown fields).map fun e => ⟨e.1, .unknown, e.2⟩ := by
  induction fields with
  | nil => rfl
  | cons e fields ih =>
      rw [List.filterMap_cons, unknown, List.filter_cons]
      by_cases he : e.1 ∈ fieldNames <;> simpa [he, unknown] using ih

variable {r : FieldReaders}

/-- What is read is decided by the three fields and by the entries that are none of them. -/
theorem ofFields_congr {F G : Entries Value} (htokens : readTokens r F = readTokens r G)
    (hthrows : readThrows r F = readThrows r G) (hbuiltins : readBuiltins r F = readBuiltins r G)
    (hunknown : unknown F = unknown G) : ofFields r F = ofFields r G := by
  simp only [readTokens] at htokens
  simp only [readThrows] at hthrows
  simp only [readBuiltins] at hbuiltins
  simp only [ofFields, filterMap_unknown, htokens, hthrows, hbuiltins, hunknown]

/-- Options are read if each field is, and no entry is left. -/
theorem fields_of_ofFields {F : Entries Value} {o : Options} (h : ofFields r F = .ok o) :
    readTokens r F = .ok ⟨o.tokens, o.symbols, o.valid⟩ ∧ readThrows r F = .ok o.throws
      ∧ readBuiltins r F = .ok o.builtins ∧ unknown F = [] := by
  simp only [ofFields, filterMap_unknown] at h
  split at h
  · next htokens hthrows hbuiltins hextra =>
      cases h
      exact ⟨htokens, hthrows, hbuiltins, List.map_eq_nil_iff.mp hextra⟩
  · cases h

theorem Tokens.ofText_of_valid {text : String} {symbols : Symbols}
    (h : Symbols.ofText text = .ok symbols) : Tokens.ofText text = .ok ⟨text, symbols, h⟩ := by
  unfold Tokens.ofText
  split
  · next h' =>
      rw [h, Except.ok.injEq] at h'
      subst h'
      rfl
  · next h' => rw [h] at h'; cases h'

theorem unknown_putAll (fields more : Entries Value) :
    unknown (fields.putAll more) = (unknown fields).putAll (unknown more) :=
  Entries.filter_putAll (fun name => !decide (name ∈ fieldNames)) fields more

/-- Options are what is read from themselves, and can stand in for the entries that they were read
from, whatever is put over these. -/
theorem ofFields_over (hr : r.Faithful) {F : Entries Value} {o : Options}
    (h : ofFields r F = .ok o) (more : Entries Value) :
    ofFields r (o.fields.putAll more) = ofFields r (F.putAll more) := by
  obtain ⟨htokens, hthrows, hbuiltins, hunknown⟩ := fields_of_ofFields h
  have hdefault : Tokens.ofText defaultTokens = .ok ⟨defaultTokens, {}, rfl⟩ :=
    Tokens.ofText_of_valid rfl
  have hself : (r.text (.str o.tokens)).bind Tokens.ofText
      = .ok ⟨o.tokens, o.symbols, o.valid⟩ := by
    rw [hr.text]
    exact Tokens.ofText_of_valid o.valid
  refine ofFields_congr ?_ ?_ ?_ ?_
  · exact readField_over hdefault htokens rfl hself more
  · exact readField_over rfl hthrows rfl (hr.flag _) more
  · exact readField_over rfl hbuiltins rfl (hr.flag _) more
  -- neither the options nor what they were read from have an unknown name
  · rw [unknown_putAll, unknown_putAll, hunknown]
    rfl

end Options

/-! ## Configuring -/

section Configuring

variable {r : FieldReaders} {base : ConfigBase} {a b : Entries Value} {o : Options}

theorem configure_of_fields {fields : Entries Value} (hnone : a.get? "options" = none)
    (hfields : base.fields = .ok fields) :
    r.configure base a = (Options.ofFields r (fields.putAll a)).mapError .invalid := by
  simp only [FieldReaders.configure, hnone, hfields]
  rfl

theorem configure_repeated (h : a.get? "options" ≠ none) :
    r.configure base a = .error (.repeatedArgument "options") := by
  rw [FieldReaders.configure, if_pos (Option.isSome_iff_ne_none.mpr h)]
  rfl

theorem fields_of_configure (h : r.configure base a = .ok o) :
    a.get? "options" = none ∧ ∃ fields, base.fields = .ok fields
      ∧ Options.ofFields r (fields.putAll a) = .ok o := by
  by_cases hnone : a.get? "options" = none
  · cases hfields : base.fields with
    | error cause =>
        simp only [FieldReaders.configure, hnone, hfields] at h
        cases h
    | ok fields =>
        rw [configure_of_fields hnone hfields, mapError_eq_ok_iff] at h
        exact ⟨hnone, fields, rfl, h⟩
  · rw [configure_repeated hnone] at h
    cases h

/-- Configuring again is configuring once, with the later overrides over the earlier ones. -/
theorem configure_options (hr : r.Faithful) (ha : a.names.Nodup) (h : r.configure base a = .ok o) (b : Entries Value) :
    r.configure (.options o) b = r.configure base (a.putAll b) := by
  obtain ⟨hnone, fields, hfields, hread⟩ := fields_of_configure h
  by_cases hb : b.get? "options" = none
  · have hab : (a.putAll b).get? "options" = none := by
      rw [Entries.get?_putAll_of_none hb, hnone]
    rw [configure_of_fields hb rfl, configure_of_fields hab hfields, Entries.putAll_putAll ha,
      Options.ofFields_over hr hread]
  · have hab : (a.putAll b).get? "options" ≠ none := by
      rw [Entries.get?_putAll, ne_eq, Option.or_eq_none_iff, Entries.get?_reverse_eq_none_iff]
      exact fun hboth => hb hboth.1
    rw [configure_repeated hb, configure_repeated hab]

/-- Configures again and again, each time from the options before. -/
def FieldReaders.reconfigure (r : FieldReaders) (o : Options) (overrides : List (Entries Value)) :
    Except ConfigError Options :=
  overrides.foldlM (fun o b => r.configure (.options o) b) o

/-- What configuring again and again gives, one configuration gives with all overrides. -/
theorem configure_of_reconfigure {overrides : List (Entries Value)} {o' : Options}
    (hr : r.Faithful) (ha : a.names.Nodup) (h : r.configure base a = .ok o)
    (h' : r.reconfigure o overrides = .ok o') :
    r.configure base (overrides.foldl Entries.putAll a) = .ok o' := by
  induction overrides generalizing a o with
  | nil =>
      cases h'
      exact h
  | cons b overrides ih =>
      rw [FieldReaders.reconfigure, List.foldlM_cons] at h'
      obtain ⟨next, hnext, hrest⟩ := bind_eq_ok_iff.mp h'
      rw [configure_options hr ha h b] at hnext
      exact ih (Entries.nodup_putAll ha b) hnext hrest

end Configuring

/-! ## The symbols of options -/

/-- The symbols are those of the symbol text: six distinct clusters, none of them empty or blank,
which make up the text, so that it can be read from them again. -/
structure Options.WellFormed (o : Options) : Prop where
  table : Symbols.ofText o.tokens = .ok o.symbols
  distinct : o.symbols.clusters.Nodup
  cluster : ∀ c ∈ o.symbols.clusters, Text.segment c = [c] ∧ c ≠ "" ∧ isBlankText c.toList = false
  text : o.symbols.text = o.tokens
  kinds : o.symbols.kinds.length = 6
  again : Symbols.ofText o.symbols.text = .ok o.symbols

theorem Symbols.text_eq_join (s : Symbols) : s.text = String.join s.clusters := by
  simp [text, clusters, String.append_assoc]

theorem Symbols.kinds_of_nodup {s : Symbols} (h : s.clusters.Nodup) : s.kinds = s.roles :=
  Entries.putAll_of_nodup h

theorem Options.wellFormed (o : Options) : o.WellFormed := by
  obtain ⟨hsegment, hdistinct, hblank⟩ := Symbols.ofText_eq_ok_iff.mp o.valid
  have htext : o.symbols.text = o.tokens := by
    rw [Symbols.text_eq_join, ← hsegment, join_segment]
  refine ⟨o.valid, hdistinct, fun c hc => ?_, htext, ?_, htext ▸ o.valid⟩
  · have hself : Text.segment c = [c] := segment_of_mem_segment (hsegment ▸ hc)
    refine ⟨hself, ?_, hblank c hc⟩
    rintro rfl
    cases hself
  · rw [Symbols.kinds_of_nodup hdistinct]
    rfl

/-- A text holds a table just if it has six clusters, all distinct and none of them blank. -/
theorem Symbols.exists_ofText_iff (text : String) :
    (∃ s, ofText text = .ok s)
      ↔ (Text.segment text).length = 6 ∧ (Text.segment text).Nodup
        ∧ ∀ c ∈ Text.segment text, isBlankText c.toList = false := by
  constructor
  · rintro ⟨s, hs⟩
    obtain ⟨hsegment, hdistinct, hblank⟩ := ofText_eq_ok_iff.mp hs
    rw [hsegment]
    exact ⟨rfl, hdistinct, hblank⟩
  · rintro ⟨hlength, hdistinct, hblank⟩
    match hsegment : Text.segment text, hlength with
    | [a, b, c, d, e, f], _ =>
        rw [hsegment] at hdistinct hblank
        exact ⟨⟨a, b, c, d, e, f⟩, ofText_eq_ok_iff.mpr ⟨hsegment, hdistinct, hblank⟩⟩

/--
Configuring composes, whatever the fields are read with as long as what has been read is read again as
it is. When options have been configured, configuring from them with further overrides gives what
configuring from the start with the further overrides over the first ones gives, be it options or
errors; and so does any sequence of such steps that succeeds. Options at the end of it are well
formed. And a text is accepted as symbols just if it has six clusters, all distinct and none of them
blank.
-/
theorem configure_composes (r : FieldReaders) (hr : r.Faithful) (base : ConfigBase)
    (a : Entries Value) (ha : a.names.Nodup) (o : Options) (h : r.configure base a = .ok o) :
    (∀ b, r.configure (.options o) b = r.configure base (a.putAll b))
      ∧ (∀ overrides o', r.reconfigure o overrides = .ok o' →
          r.configure base (overrides.foldl Entries.putAll a) = .ok o' ∧ o'.WellFormed)
      ∧ ∀ text, (∃ s, Symbols.ofText text = .ok s)
          ↔ (Text.segment text).length = 6 ∧ (Text.segment text).Nodup
            ∧ ∀ c ∈ Text.segment text, isBlankText c.toList = false :=
  ⟨configure_options hr ha h,
    fun _ o' h' => ⟨configure_of_reconfigure hr ha h h', o'.wellFormed⟩,
    Symbols.exists_ofText_iff⟩

/-- A value that cannot be read is overridden, and then an option that was read from a number is
overridden by a word that cannot be. -/
theorem configure_composes_words :
    let r := FieldReaders.lax
    let base : ConfigBase := .value (.dict [("throws", .str "maybe")])
    let a : Entries Value := [("throws", .str "Yes"), ("builtins", .int 0)]
    let o : Options :=
      { tokens := defaultTokens, throws := true, builtins := false, symbols := {}, valid := rfl }
    r.Faithful ∧ a.names.Nodup ∧ r.configure base a = .ok o
      ∧ r.configure (.options o) [("nope", .none), ("builtins", .str "maybe")]
        = .error (.invalid
            [⟨"builtins", .unclearFlag, .str "maybe"⟩, ⟨"nope", .unknown, .none⟩]) := by
  intro r base a o
  have hr : r.Faithful := FieldReaders.lax_faithful
  have ha : a.names.Nodup := by decide
  have h : r.configure base a = .ok o := rfl
  obtain ⟨hagain, -⟩ := configure_composes r hr base a ha o h
  refine ⟨hr, ha, h, ?_⟩
  rw [hagain]
  rfl

end Stencil

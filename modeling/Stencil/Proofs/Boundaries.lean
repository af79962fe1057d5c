import Stencil.Text.Cluster
import Mathlib.Data.List.Infix

/-!
# Where clusters end

The rules for grapheme clusters look at everything before a place: at how many regional indicators
stand in a row, and whether a joiner follows a pictograph with its extenders. Cutting a text into
clusters keeps only a trail of the open cluster, and that is enough: the boundaries are those of the
rules (`boundary_iff_not_unbroken`). So a run of whole clusters, taken out of its text, is cut into
these clusters again (`segment_join_of_infix`), and the last of them can be exchanged for a text that
starts with a character of the same class (`segment_concat_of_breakClass`).
-/

namespace Stencil.Text

/-! ## The rules -/

namespace BreakClass

/-- Line breaks and controls are clusters alone. -/
def isControl : BreakClass → Bool
  | .carriageReturn | .lineFeed | .control => true
  | _ => false

/-- Two parts of a Hangul syllable, in order. -/
def joinsSyllable : BreakClass → BreakClass → Bool
  | .leading, .leading | .leading, .vowel | .leading, .leadingVowel
  | .leading, .leadingVowelTrailing => true
  | .leadingVowel, .vowel | .leadingVowel, .trailing | .vowel, .vowel | .vowel, .trailing => true
  | .leadingVowelTrailing, .trailing | .trailing, .trailing => true
  | _, _ => false

/-- The classes, the nearest first, end in a pictograph with any number of extenders. -/
def endsInPictograph (before : List BreakClass) : Bool :=
  (before.dropWhile (· = .extend)).head? = some .pictograph

/-- The number of regional indicators that the classes, the nearest first, end in is odd. -/
def endsInOddRegionals (before : List BreakClass) : Bool :=
  (before.takeWhile (· = .regional)).length % 2 = 1

/--
Tells whether a character of class `k` belongs to the cluster of the one before it, by the rules GB3
to GB13 of UAX #29 without GB9c. All classes before the character are given, the nearest first.
-/
def unbroken : List BreakClass → BreakClass → Bool
  | [], _ => false
  | last :: before, k =>
    if last = .carriageReturn && k = .lineFeed then true -- GB3
    else if last.isControl || k.isControl then false -- GB4, GB5
    else
      last.joinsSyllable k -- GB6, GB7, GB8
        || k = .extend || k = .joiner || k = .spacingMark -- GB9, GB9a
        || last = .prepend -- GB9b
        || (k = .pictograph && last = .joiner && endsInPictograph before) -- GB11
        || (k = .regional && endsInOddRegionals (last :: before)) -- GB12, GB13

end BreakClass

open BreakClass

/-! ## What a trail tells -/

/-- The trail tells of the classes before a place, the nearest first, what the rules ask. -/
structure Trail.Tells (t : Trail) (before : List BreakClass) : Prop where
  last : before.head? = some t.last
  pictograph : endsInPictograph before = (t.joining = .pictograph : Bool)
  joined : (t.last = .joiner && endsInPictograph before.tail) = (t.joining = .joined : Bool)
  regionals : t.oddRegionals = endsInOddRegionals before

/-- The trail behind a character of class `k`, which may start a cluster. -/
def Trail.next (t : Trail) (k : BreakClass) : Trail :=
  if t.continues k then t.push k else .start k

/-- The rules, read off a trail. -/
theorem Trail.continues_eq (t : Trail) (k : BreakClass) :
    t.continues k =
      if t.last = .carriageReturn && k = .lineFeed then true
      else if t.last.isControl || k.isControl then false
      else
        t.last.joinsSyllable k || k = .extend || k = .joiner || k = .spacingMark || t.last = .prepend
          || (k = .pictograph && t.last = .joiner && t.joining = .joined)
          || (k = .regional && t.last = .regional && t.oddRegionals) := by
  obtain ⟨last, joining, odd⟩ := t
  cases last <;> cases k <;> first | rfl | simp [continues, isControl, joinsSyllable]

theorem endsInPictograph_cons (k : BreakClass) (before : List BreakClass) :
    endsInPictograph (k :: before)
      = if k = .extend then endsInPictograph before else decide (k = .pictograph) := by
  by_cases h : k = .extend <;> simp [endsInPictograph, h]

theorem endsInOddRegionals_cons (k : BreakClass) (before : List BreakClass) :
    endsInOddRegionals (k :: before) = (k = .regional && !endsInOddRegionals before) := by
  by_cases h : k = .regional
  · have hlength := Nat.mod_two_eq_zero_or_one (before.takeWhile (· = .regional)).length
    rcases hlength with hlength | hlength <;> simp [endsInOddRegionals, h, Nat.add_mod, hlength]
  · simp [endsInOddRegionals, h]

theorem endsInPictograph_of_isControl {last : BreakClass} (h : last.isControl)
    (before : List BreakClass) : endsInPictograph (last :: before) = false := by
  rw [endsInPictograph_cons]
  cases last <;> cases h <;> rfl

namespace Trail.Tells

variable {t : Trail} {before : List BreakClass} {k : BreakClass}

theorem exists_cons (h : t.Tells before) : ∃ rest, before = t.last :: rest := by
  cases before with
  | nil => cases h.last
  | cons last rest => cases h.last; exact ⟨rest, rfl⟩

theorem continues_eq_unbroken (h : t.Tells before) : t.continues k = unbroken before k := by
  obtain ⟨rest, rfl⟩ := h.exists_cons
  have hjoined : (t.last = .joiner && t.joining = .joined)
      = (t.last = .joiner && endsInPictograph rest) := by
    rw [← h.joined, List.tail_cons, ← Bool.and_assoc, Bool.and_self]
  have hregionals : (t.last = .regional && t.oddRegionals)
      = endsInOddRegionals (t.last :: rest) := by
    rw [h.regionals, endsInOddRegionals_cons]
    simp
  rw [continues_eq, unbroken]
  simp only [Bool.and_assoc, hjoined, hregionals]

/-- Behind a control or a line break a cluster starts, so that no pictograph is waited on. -/
theorem not_endsInPictograph (h : t.Tells before) (hk : k = .extend ∨ k = .joiner)
    (hstart : t.continues k = false) : endsInPictograph before = false := by
  obtain ⟨rest, rfl⟩ := h.exists_cons
  refine endsInPictograph_of_isControl ?_ rest
  rw [continues_eq] at hstart
  rcases hk with rfl | rfl <;> simpa [isControl] using hstart

/-- Where a regional indicator starts a cluster, those before it are in pairs. -/
theorem not_endsInOddRegionals (h : t.Tells before) (hk : k = .regional)
    (hstart : t.continues k = false) : endsInOddRegionals before = false := by
  subst hk
  obtain ⟨rest, rfl⟩ := h.exists_cons
  rw [continues_eq_unbroken h, unbroken] at hstart
  by_cases hcontrol : t.last.isControl
  · rw [endsInOddRegionals_cons]
    revert hcontrol
    cases t.last <;> simp [isControl]
  · have hregional : isControl .regional = false := rfl
    simp only [reduceCtorEq, decide_false, Bool.and_false, Bool.false_eq_true, if_false, hcontrol,
      hregional, Bool.or_self, decide_true, Bool.true_and, Bool.or_eq_false_iff] at hstart
    exact hstart.2

theorem start (k : BreakClass) : (Trail.start k).Tells [k] where
  last := rfl
  pictograph := by cases k <;> decide
  joined := by cases k <;> decide
  regionals := by cases k <;> rfl

/-- A trail goes on telling when the next character is read, be it in the open cluster or not. -/
theorem next (h : t.Tells before) (k : BreakClass) : (t.next k).Tells (k :: before) := by
  unfold Trail.next
  split
  · refine ⟨rfl, ?_, ?_, ?_⟩
    · rw [endsInPictograph_cons, h.pictograph]
      cases k <;> by_cases hp : t.joining = .pictograph <;> simp [push, hp]
    · rw [List.tail_cons, h.pictograph]
      cases k <;> by_cases hp : t.joining = .pictograph <;> simp [push, hp]
    · rw [endsInOddRegionals_cons, ← h.regionals]
      rfl
  · next hstart =>
      rw [Bool.not_eq_true] at hstart
      have hpictograph : k = .extend ∨ k = .joiner → endsInPictograph before = false := fun hk =>
        h.not_endsInPictograph hk hstart
      refine ⟨rfl, ?_, ?_, ?_⟩
      · rw [endsInPictograph_cons]
        cases k <;> simp [Trail.start, hpictograph]
      · rw [List.tail_cons]
        cases k <;> simp [Trail.start, hpictograph]
      · rw [endsInOddRegionals_cons]
        by_cases hk : k = .regional
        · simp [Trail.start, hk, h.not_endsInOddRegionals hk hstart]
        · simp [Trail.start, hk]

end Trail.Tells

/-! ## Boundaries -/

theorem clustersFrom_cons (t : Trail) (c : Char) (cs : List Char) :
    clustersFrom t (c :: cs) =
      let r := clustersFrom (t.next (breakClass c)) cs
      if t.continues (breakClass c) then (c :: r.1, r.2) else ([], (c :: r.1) :: r.2) := by
  rw [clustersFrom, Trail.next]
  split <;> rfl

/-- The trail behind some characters that follow those of the trail `t`. -/
def Trail.after (t : Trail) (cs : List Char) : Trail :=
  cs.foldl (fun t c => t.next (breakClass c)) t

theorem Trail.Tells.after {t : Trail} {before : List BreakClass} (h : t.Tells before)
    (cs : List Char) : (t.after cs).Tells ((cs.map breakClass).reverse ++ before) := by
  induction cs generalizing t before with
  | nil => exact h
  | cons c cs ih =>
      rw [List.map_cons, List.reverse_cons, List.append_assoc]
      exact ih (h.next (breakClass c))

/-- The first part of a split is not empty, so that the first group is in it. -/
theorem exists_split_cons_iff {g xs : List Char} {groups : List (List Char)} {x : Char} :
    (∃ gs hs, g :: groups = gs ++ hs ∧ gs.flatten = x :: xs)
      ↔ ∃ gs hs, groups = gs ++ hs ∧ g ++ gs.flatten = x :: xs := by
  constructor
  · rintro ⟨gs, hs, heq, hflat⟩
    cases gs with
    | nil => cases hflat
    | cons g' gs =>
        rw [List.cons_append, List.cons.injEq] at heq
        obtain ⟨rfl, hrest⟩ := heq
        exact ⟨gs, hs, hrest, hflat⟩
  · rintro ⟨gs, hs, rfl, hflat⟩
    exact ⟨g :: gs, hs, rfl, hflat⟩

/-- A cluster of some characters ends after `xs`, where the first cluster goes on with those of the
trail `t`. -/
theorem clustersFrom_split_iff (t : Trail) (xs : List Char) (y : Char) (ys : List Char) :
    (∃ gs hs, (clustersFrom t (xs ++ y :: ys)).2 = gs ++ hs
        ∧ (clustersFrom t (xs ++ y :: ys)).1 ++ gs.flatten = xs)
      ↔ (t.after xs).continues (breakClass y) = false := by
  induction xs generalizing t with
  | nil =>
      rw [List.nil_append, clustersFrom_cons, Trail.after, List.foldl_nil]
      cases hy : t.continues (breakClass y) with
      | true => simp
      | false => exact ⟨fun _ => rfl, fun _ => ⟨[], _, rfl, rfl⟩⟩
  | cons x xs ih =>
      have hnext : t.after (x :: xs) = (t.next (breakClass x)).after xs := rfl
      rw [List.cons_append, clustersFrom_cons, hnext, ← ih]
      cases hx : t.continues (breakClass x) with
      | true => simp
      | false =>
          simp only [Bool.false_eq_true, if_false, List.nil_append, exists_split_cons_iff,
            List.cons_append, List.cons.injEq, true_and]

/-- After the first characters `xs` of a text one of its clusters ends. -/
def Boundary (xs cs : List Char) : Prop :=
  ∃ gs hs, clusters cs = gs ++ hs ∧ gs.flatten = xs

/-- Clusters end just where the rules do not hold two characters together, at all that is before. -/
theorem boundary_iff_not_unbroken {xs : List Char} (hxs : xs ≠ []) (y : Char) (ys : List Char) :
    Boundary xs (xs ++ y :: ys)
      ↔ unbroken (xs.map breakClass).reverse (breakClass y) = false := by
  obtain ⟨x, xs, rfl⟩ := List.exists_cons_of_ne_nil hxs
  have htells := (Trail.Tells.start (breakClass x)).after xs
  rw [List.map_cons, List.reverse_cons, ← htells.continues_eq_unbroken, 
    ← clustersFrom_split_iff _ xs y ys, Boundary, List.cons_append, clusters]
  simp only [exists_split_cons_iff, List.cons_append, List.cons.injEq, true_and]

/-! ## Runs of clusters -/

/-- What is cut off behind a cluster has no part in the clusters before. -/
theorem clustersFrom_of_append {t : Trail} {cs r : List Char} {gs hs : List (List Char)}
    (h : clustersFrom t cs = (r, gs ++ hs)) : clustersFrom t (r ++ gs.flatten) = (r, gs) := by
  induction cs generalizing t r gs with
  | nil =>
      rw [clustersFrom, Prod.mk.injEq] at h
      obtain ⟨rfl, hnil⟩ := h
      obtain ⟨rfl, -⟩ := List.append_eq_nil_iff.mp hnil.symm
      rfl
  | cons c cs ih =>
      rw [clustersFrom] at h
      split at h
      · next hc =>
          obtain ⟨rfl, hrest⟩ := Prod.mk.inj h
          rw [List.cons_append, clustersFrom, if_pos hc, ih (Prod.ext rfl hrest)]
      · next hc =>
          obtain ⟨rfl, hrest⟩ := Prod.mk.inj h
          cases gs with
          | nil => rfl
          | cons g gs =>
              rw [List.cons_append, List.cons.injEq] at hrest
              obtain ⟨rfl, hrest⟩ := hrest
              rw [List.nil_append, List.flatten_cons, List.cons_append, clustersFrom, if_neg hc,
                ih (Prod.ext rfl hrest)]

theorem clusters_of_append_left {cs : List Char} {gs hs : List (List Char)}
    (h : clusters cs = gs ++ hs) : clusters gs.flatten = gs := by
  cases gs with
  | nil => rfl
  | cons g gs =>
      cases cs with
      | nil => cases h
      | cons c cs =>
          rw [clusters, List.cons_append, List.cons.injEq] at h
          obtain ⟨rfl, hrest⟩ := h
          rw [List.flatten_cons, List.cons_append, clusters,
            clustersFrom_of_append (Prod.ext rfl hrest)]

/-- The clusters behind the open one are cut as if the text started with them. -/
theorem clustersFrom_snd (t : Trail) (cs : List Char) :
    clusters (clustersFrom t cs).2.flatten = (clustersFrom t cs).2 := by
  induction cs generalizing t with
  | nil => rfl
  | cons c cs ih =>
      rw [clustersFrom]
      split
      · exact ih _
      · rw [List.flatten_cons, List.cons_append, flatten_clustersFrom, clusters]

theorem clusters_of_append_right {cs : List Char} {gs hs : List (List Char)}
    (h : clusters cs = gs ++ hs) : clusters hs.flatten = hs := by
  induction gs generalizing cs with
  | nil => rw [List.nil_append] at h; rw [← h, flatten_clusters]
  | cons g gs ih =>
      cases cs with
      | nil => cases h
      | cons c cs =>
          rw [clusters, List.cons_append, List.cons.injEq] at h
          have hrest := clustersFrom_snd (.start (breakClass c)) cs
          rw [h.2] at hrest
          exact ih hrest

/-- A run of clusters of a text is cut into these clusters when it stands alone. -/
theorem clusters_of_infix {cs : List Char} {run : List (List Char)} (h : run <:+: clusters cs) :
    clusters run.flatten = run := by
  obtain ⟨gs, hs, heq⟩ := h
  rw [List.append_assoc] at heq
  exact clusters_of_append_left (clusters_of_append_right heq.symm)

theorem map_toList_segment (text : String) :
    (segment text).map String.toList = clusters text.toList := by
  have hid : String.toList ∘ String.ofList = id := funext fun _ => String.toList_ofList
  rw [segment, List.map_map, hid, List.map_id]

theorem segment_join_of_infix {text : String} {run : List String} (h : run <:+: segment text) :
    segment (String.join run) = run := by
  have hrun : run.map String.toList <:+: clusters text.toList :=
    map_toList_segment text ▸ h.map String.toList
  have hid : String.ofList ∘ String.toList = id := funext fun _ => String.ofList_toList
  rw [segment, String.toList_join, List.flatMap_def, clusters_of_infix hrun, List.map_map, hid,
    List.map_id]

/-- A cluster of a text is one cluster when it stands alone. -/
theorem segment_of_mem_segment {text c : String} (h : c ∈ segment text) : segment c = [c] := by
  obtain ⟨before, after, heq⟩ := List.append_of_mem h
  have hrun : [c] <:+: segment text := ⟨before, after, by simp [heq]⟩
  have hself := segment_join_of_infix hrun
  rwa [String.join_cons, String.join_nil, String.append_empty] at hself

/-! ## Another cluster at the end -/

/-- Where a cluster ends, a text is cut as its two parts are. -/
theorem clusters_append_of_boundary {xs ys : List Char} (h : Boundary xs (xs ++ ys)) :
    clusters (xs ++ ys) = clusters xs ++ clusters ys := by
  obtain ⟨gs, hs, heq, hflat⟩ := h
  have hxs : clusters xs = gs := hflat ▸ clusters_of_append_left heq
  have hall : gs.flatten ++ hs.flatten = xs ++ ys := by
    rw [← List.flatten_append, ← heq, flatten_clusters]
  rw [hflat, List.append_cancel_left_eq] at hall
  have hys : clusters ys = hs := hall ▸ clusters_of_append_right heq
  rw [heq, hxs, hys]

/-- A cluster ends in front of a character if one ends there in front of another of its class. -/
theorem boundary_of_breakClass {xs : List Char} (hxs : xs ≠ []) {y z : Char}
    (hclass : breakClass y = breakClass z) {ys : List Char} (h : Boundary xs (xs ++ y :: ys))
    (zs : List Char) : Boundary xs (xs ++ z :: zs) := by
  rw [boundary_iff_not_unbroken hxs] at h ⊢
  rwa [← hclass]

/-- The last of some clusters in a row can be exchanged for a text that starts with a character of
the same class. -/
theorem segment_concat_of_breakClass {text c d : String} {cs : List String}
    (h : cs ++ [c] <:+: segment text) (hcs : String.join cs ≠ "") {y z : Char} {ys zs : List Char}
    (hc : c.toList = y :: ys) (hd : d.toList = z :: zs) (hclass : breakClass y = breakClass z) :
    segment (String.join (cs ++ [d])) = cs ++ segment d := by
  have hfront : segment (String.join cs) = cs :=
    segment_join_of_infix ((List.prefix_append cs [c]).isInfix.trans h)
  have hchars (last : String) :
      (String.join (cs ++ [last])).toList = (String.join cs).toList ++ last.toList := by
    rw [String.join_append, String.join_cons, String.join_nil, String.append_empty,
      String.toList_append]
  have hrun : clusters ((String.join cs).toList ++ y :: ys)
      = clusters (String.join cs).toList ++ [y :: ys] := by
    rw [← hc, ← hchars, ← map_toList_segment, segment_join_of_infix h, List.map_append,
      ← map_toList_segment, hfront, List.map_singleton]
  have hboundary : Boundary (String.join cs).toList ((String.join cs).toList ++ y :: ys) :=
    ⟨_, _, hrun, flatten_clusters _⟩
  have hne : (String.join cs).toList ≠ [] := fun hnil => hcs (String.toList_eq_nil_iff.mp hnil)
  have hother := clusters_append_of_boundary (boundary_of_breakClass hne hclass hboundary zs)
  rw [segment, hchars, hd, hother, List.map_append, ← hd]
  exact congrArg (· ++ segment d) hfront

end Stencil.Text

import Stencil.Text.GraphemeBreak

/-!
# Grapheme clusters

A text is cut into user-perceived characters: extended grapheme clusters, without the rule for
Indic conjuncts. Whether a character continues a cluster depends only on what that cluster holds so
far, so the state starts afresh with each cluster and cutting a text between two of its clusters
moves no other boundary.
-/

namespace Stencil.Text

/-- How far a cluster has come in a sequence of pictographs held together by joiners. -/
inductive Joining where
  | none
  | pictograph
  | joined
  deriving DecidableEq, Repr, Inhabited

/-- What the characters of a cluster tell about the next one. -/
structure Trail where
  last : BreakClass
  joining : Joining
  oddRegionals : Bool
  deriving DecidableEq, Repr, Inhabited

namespace Trail

def start (k : BreakClass) : Trail where
  last := k
  joining := if k = .pictograph then .pictograph else .none
  oddRegionals := k = .regional

def push (t : Trail) (k : BreakClass) : Trail where
  last := k
  joining :=
    match k with
    | .pictograph => .pictograph
    | .extend => if t.joining = .pictograph then .pictograph else .none
    | .joiner => if t.joining = .pictograph then .joined else .none
    | _ => .none
  oddRegionals := k = .regional && !t.oddRegionals

/-- Tells whether a character of class `k` belongs to the cluster before it. -/
def continues (t : Trail) (k : BreakClass) : Bool :=
  match t.last, k with
  | .carriageReturn, .lineFeed => true
  | .carriageReturn, _ => false
  | .lineFeed, _ => false
  | .control, _ => false
  | _, .carriageReturn => false
  | _, .lineFeed => false
  | _, .control => false
  | _, .extend => true
  | _, .joiner => true
  | _, .spacingMark => true
  | .prepend, _ => true
  | .leading, .leading => true
  | .leading, .vowel => true
  | .leading, .leadingVowel => true
  | .leading, .leadingVowelTrailing => true
  | .leadingVowel, .vowel => true
  | .leadingVowel, .trailing => true
  | .vowel, .vowel => true
  | .vowel, .trailing => true
  | .leadingVowelTrailing, .trailing => true
  | .trailing, .trailing => true
  | .joiner, .pictograph => t.joining = .joined
  | .regional, .regional => t.oddRegionals
  | _, _ => false

end Trail

/-- The rest of the cluster that has the trail `t`, and the clusters after it. -/
def clustersFrom (t : Trail) : List Char → List Char × List (List Char)
  | [] => ([], [])
  | c :: cs =>
    let k := breakClass c
    if t.continues k then
      let r := clustersFrom (t.push k) cs
      (c :: r.1, r.2)
    else
      let r := clustersFrom (.start k) cs
      ([], (c :: r.1) :: r.2)

/-- The clusters of a list of characters, in order. -/
def clusters : List Char → List (List Char)
  | [] => []
  | c :: cs =>
    let r := clustersFrom (.start (breakClass c)) cs
    (c :: r.1) :: r.2

def segment (text : String) : List String :=
  (clusters text.toList).map String.ofList

theorem flatten_clustersFrom (t : Trail) (cs : List Char) :
    (clustersFrom t cs).1 ++ (clustersFrom t cs).2.flatten = cs := by
  induction cs generalizing t with
  | nil => rfl
  | cons c cs ih =>
    rw [clustersFrom]
    split
    · simp [ih]
    · simpa using ih (.start (breakClass c))

/-- Cutting into clusters loses nothing. -/
theorem flatten_clusters (cs : List Char) : (clusters cs).flatten = cs := by
  cases cs with
  | nil => rfl
  | cons c cs => simp [clusters, flatten_clustersFrom]

end Stencil.Text

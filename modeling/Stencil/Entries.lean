/-!
# Entries

Names with values, in the order in which the names first came. Giving a name a second value keeps
its place.
-/

namespace Stencil

/-- Named values in order of first appearance. -/
abbrev Entries (α : Type u) := List (String × α)

namespace Entries

variable {α : Type u}

def get? (es : Entries α) (name : String) : Option α :=
  match es with
  | [] => none
  | (n, v) :: rest => if n = name then some v else get? rest name

/-- Gives a name a value: in its place if the name is there, else at the end. -/
def put (es : Entries α) (name : String) (value : α) : Entries α :=
  match es with
  | [] => [(name, value)]
  | (n, v) :: rest => if n = name then (n, value) :: rest else (n, v) :: put rest name value

/-- Gives the names of `more` their values, one after the other. -/
def putAll (es more : Entries α) : Entries α :=
  more.foldl (fun acc e => acc.put e.1 e.2) es

/-- Entries without repeated names: the last value of a name stands in its first place. -/
def ofList (es : List (String × α)) : Entries α :=
  putAll [] es

def names (es : Entries α) : List String :=
  es.map (·.1)

theorem get?_put (es : Entries α) (name other : String) (value : α) :
    (es.put name value).get? other = if name = other then some value else es.get? other := by
  induction es with
  | nil => simp [put, get?]
  | cons e es ih =>
    obtain ⟨n, v⟩ := e
    by_cases h : n = name
    · subst h; simp [put, get?]; split <;> rfl
    · by_cases h' : n = other
      · subst h'; simp [put, get?, h, Ne.symm h]
      · simp [put, get?, h, h', ih]

end Entries

end Stencil

import Stencil.Disk

/-!
# Places

A tree is seen as a map: names that lead downwards give what is there, a directory or a file
(`Tree.kind?`), and putting something new into a directory changes this map at its place only
(`Tree.kind?_put`). A path may also lead upwards; the names of the place that it leads to are known
without the tree (`Tree.plain`), which only decides whether the way is there. So a path that leads to a
place does so in every tree in which directories are still directories and files still files
(`Tree.Grows.locate`).
-/

namespace Stencil

namespace Tree

/-! ## Trees as maps -/

/-- What is at a place: a directory, or a file with its bytes. -/
inductive Kind where
  | directory
  | file (bytes : List UInt8)

def kind : Tree → Kind
  | directory _ => .directory
  | file bytes => .file bytes

/-- What is below a tree at the end of names that all lead downwards. -/
def get? : Tree → List String → Option Tree
  | t, [] => some t
  | t, name :: names => (Entries.get? t.entries name).bind fun inner => inner.get? names

/-- The kind of what is at the end of the names. -/
def kind? (t : Tree) (names : List String) : Option Kind :=
  (t.get? names).map kind

@[simp] theorem kind?_nil (t : Tree) : t.kind? [] = some t.kind := rfl

theorem kind?_cons (t : Tree) (name : String) (names : List String) :
    t.kind? (name :: names)
      = (Entries.get? t.entries name).bind fun inner => inner.kind? names := by
  rw [kind?, get?]
  cases Entries.get? t.entries name <;> rfl

theorem get?_append (t : Tree) (xs ys : List String) :
    t.get? (xs ++ ys) = (t.get? xs).bind fun inner => inner.get? ys := by
  induction xs generalizing t with
  | nil => rfl
  | cons x xs ih =>
      rw [List.cons_append, get?, get?]
      cases Entries.get? t.entries x with
      | none => rfl
      | some inner => exact ih inner

theorem kind?_append {t inner : Tree} {xs : List String} (h : t.get? xs = some inner)
    (ys : List String) : t.kind? (xs ++ ys) = inner.kind? ys := by
  rw [kind?, get?_append, h]
  rfl

theorem get?_of_kind? {t : Tree} {names : List String} {k : Kind} (h : t.kind? names = some k) :
    ∃ inner, t.get? names = some inner ∧ inner.kind = k := by
  rw [kind?, Option.map_eq_some_iff] at h
  exact h

theorem eq_directory_of_kind {t : Tree} (h : t.kind = .directory) : t = .directory t.entries := by
  cases t with
  | directory => rfl
  | file => cases h

theorem isDirectory_iff_kind {t : Tree} : t.isDirectory ↔ t.kind = .directory := by
  cases t with
  | directory => exact ⟨fun _ => rfl, fun _ => rfl⟩
  | file => exact ⟨nofun, nofun⟩

theorem isDirectory_eq_of_kind_iff {t t' : Tree}
    (h : t.kind = .directory ↔ t'.kind = .directory) : t'.isDirectory = t.isDirectory := by
  rw [Bool.eq_iff_iff, isDirectory_iff_kind, isDirectory_iff_kind, h]

/-- Only a directory has entries. -/
theorem kind_of_entry {t inner : Tree} {name : String}
    (h : Entries.get? t.entries name = some inner) : t.kind = .directory := by
  cases t with
  | directory => rfl
  | file => cases h

/-- Above a place there are directories only. -/
theorem kind?_of_append {t : Tree} {names : List String} {k : Kind} {more : List String}
    (h : t.kind? (names ++ more) = some k) (hmore : more ≠ []) :
    t.kind? names = some .directory := by
  obtain ⟨inner, hinner, -⟩ := get?_of_kind? h
  rw [get?_append] at hinner
  cases hget : t.get? names with
  | none => rw [hget] at hinner; cases hinner
  | some found =>
      rw [kind?, hget, Option.map_some]
      cases more with
      | nil => exact absurd rfl hmore
      | cons name more =>
          rw [hget, Option.bind_some, get?, Option.bind_eq_some_iff] at hinner
          obtain ⟨_, hentry, -⟩ := hinner
          rw [kind_of_entry hentry]

/-- Below a file, and below nothing, there is nothing. -/
theorem kind?_append_eq_none {t : Tree} {names more : List String} (hmore : more ≠ [])
    (h : t.kind? names ≠ some .directory) : t.kind? (names ++ more) = none := by
  cases hk : t.kind? (names ++ more) with
  | none => rfl
  | some k => exact absurd (kind?_of_append hk hmore) h

/-- What is put into a directory is at its place, with all that is in it, and nothing else changes. -/
theorem kind?_put {new : Tree} {names : List String} : ∀ {t : Tree},
    (names = [] ∨ t.kind? names.dropLast = some .directory) → ∀ other : List String,
      (t.put new names).kind? other
        = if names <+: other then new.kind? (other.drop names.length) else t.kind? other := by
  induction names with
  | nil =>
      intro t _ other
      rw [put, if_pos (List.nil_prefix), List.length_nil, List.drop_zero]
  | cons name names ih =>
      intro t ht other
      replace ht : t.kind? (name :: names).dropLast = some .directory :=
        ht.resolve_left (List.cons_ne_nil _ _)
      have hinner : names = [] ∨ ∃ inner, Entries.get? t.entries name = some inner
          ∧ inner.kind? names.dropLast = some .directory := by
        cases names with
        | nil => exact .inl rfl
        | cons next names =>
            rw [List.dropLast_cons_cons, kind?_cons, Option.bind_eq_some_iff] at ht
            exact .inr ht
      rw [put]
      cases other with
      | nil =>
          have hdirectory : t.kind = .directory := by
            rcases hinner with rfl | ⟨inner, hentry, -⟩
            · exact Option.some.inj ht
            · exact kind_of_entry hentry
          rw [if_neg (by simp), kind?_nil, kind?_nil, hdirectory]
          rfl
      | cons o os =>
          rw [kind?_cons, kind?_cons, entries, Entries.get?_put]
          by_cases hname : name = o
          · subst hname
            simp only [if_true, Option.bind_some, List.cons_prefix_cons, true_and,
              List.length_cons, List.drop_succ_cons]
            rcases hinner with rfl | ⟨inner, hentry, hkind⟩
            · rw [ih (.inl rfl) os, if_pos List.nil_prefix, if_pos List.nil_prefix]
            · rw [hentry, Option.getD_some, Option.bind_some]
              exact ih (.inr hkind) os
          · rw [if_neg hname, if_neg (by simp [hname])]

/-! ## Steps -/

/-- The place one directory above. At the top it is the same one. -/
def Place.up (p : Place) : Place :=
  match p.above with
  | [] => p
  | (_, t) :: above => ⟨t, above⟩

/-- All that one step may come to, each with what leads to it. -/
inductive Place.Step (p : Place) (name : String) : Except FileCause Place → Prop
  | notDirectory (hfile : p.here.kind ≠ .directory) : Step p name (.error .notDirectory)
  | up (hdirectory : p.here.kind = .directory) (hname : name = "..") : Step p name (.ok p.up)
  | nameTooLong (hdirectory : p.here.kind = .directory) (hname : name ≠ "..")
      (hsize : maxName < name.utf8ByteSize) : Step p name (.error .nameTooLong)
  | notFound (hdirectory : p.here.kind = .directory) (hname : name ≠ "..")
      (hsize : name.utf8ByteSize ≤ maxName) (hentry : Entries.get? p.here.entries name = none) :
      Step p name (.error .notFound)
  | down {t : Tree} (hname : name ≠ "..") (hsize : name.utf8ByteSize ≤ maxName)
      (hentry : Entries.get? p.here.entries name = some t) :
      Step p name (.ok ⟨t, (name, p.here) :: p.above⟩)

theorem Place.step_eq_iff {p : Place} {name : String} {result : Except FileCause Place} :
    p.step name = result ↔ p.Step name result := by
  constructor
  · rintro rfl
    obtain ⟨here, above⟩ := p
    unfold Place.step
    cases here with
    | file bytes => exact .notDirectory nofun
    | directory es =>
        simp only
        split
        · next hname =>
            cases above <;> exact .up rfl hname
        · next hname =>
            split
            · next hsize => exact .nameTooLong rfl hname hsize
            · next hsize =>
                split
                · next hentry => exact .notFound rfl hname (Nat.le_of_not_lt hsize) hentry
                · next t hentry => exact .down hname (Nat.le_of_not_lt hsize) hentry
  · intro h
    obtain ⟨here, above⟩ := p
    cases here with
    | file bytes => cases h with
      | notDirectory => rfl
      | up hdirectory | nameTooLong hdirectory | notFound hdirectory => cases hdirectory
      | down _ _ hentry => cases hentry
    | directory es => cases h with
      | notDirectory hfile => exact absurd rfl hfile
      | up _ hname =>
          subst hname
          cases above <;> rfl
      | nameTooLong _ hname hsize => exact (if_neg hname).trans (if_pos hsize)
      | notFound _ hname hsize hentry =>
          rw [entries] at hentry
          simp only [Place.step, if_neg hname, if_neg (Nat.not_lt.mpr hsize), hentry]
      | down hname hsize hentry =>
          rw [entries] at hentry
          simp only [Place.step, if_neg hname, if_neg (Nat.not_lt.mpr hsize), hentry]

theorem Place.Step.directory {p q : Place} {name : String} (h : p.Step name (.ok q)) :
    p.here.kind = .directory := by
  cases h with
  | up hdirectory => exact hdirectory
  | down _ _ hentry => exact kind_of_entry hentry

/-! ## Paths without steps upwards -/

/-- One step from a place, where two points lead upwards. At the top they lead nowhere. -/
def upward (names : List String) (name : String) : List String :=
  if name = ".." then names.dropLast else names ++ [name]

/-- The names of the place that names lead to if the way is there. -/
def plain (names : List String) : List String :=
  names.foldl upward []

theorem plain_append (xs ys : List String) : plain (xs ++ ys) = ys.foldl upward (plain xs) :=
  List.foldl_append

/-- The place is one in the tree: what is above it leads down to it. -/
inductive Place.Within (t : Tree) : Place → Prop
  | top : Within t ⟨t, []⟩
  | down {p : Place} {name : String} {here : Tree} (hp : Within t p)
      (hentry : Entries.get? p.here.entries name = some here) :
      Within t ⟨here, (name, p.here) :: p.above⟩

namespace Place

variable {t t' : Tree} {p p' q : Place} {name : String}

theorem names_down (p : Place) (name : String) (here : Tree) :
    (⟨here, (name, p.here) :: p.above⟩ : Place).names = p.names ++ [name] := by
  simp [names]

theorem Within.get? (h : Within t p) : t.get? p.names = some p.here := by
  induction h with
  | top => rfl
  | @down p name here _ hentry ih =>
      rw [names_down, get?_append, ih, Option.bind_some, Tree.get?, hentry]
      rfl

theorem Within.up (h : Within t p) : Within t p.up ∧ p.up.names = p.names.dropLast := by
  cases h with
  | top => exact ⟨.top, rfl⟩
  | down hp _ =>
      rw [names_down, List.dropLast_concat]
      exact ⟨hp, rfl⟩

theorem Within.step (h : Within t p) (hstep : p.step name = .ok q) :
    Within t q ∧ q.names = upward p.names name := by
  cases step_eq_iff.mp hstep with
  | up _ hname =>
      rw [upward, if_pos hname]
      exact h.up
  | down hname _ hentry =>
      rw [upward, if_neg hname]
      exact ⟨.down h hentry, names_down p name _⟩

/-- A step upwards leads to a directory. -/
theorem Within.directory_of_up (h : Within t p) (hstep : p.step ".." = .ok q) :
    q.here.kind = .directory := by
  cases step_eq_iff.mp hstep with
  | up hdirectory _ => cases h with
    | top => exact hdirectory
    | down _ hentry => exact kind_of_entry hentry
  | down hname => exact absurd rfl hname

theorem Within.walk {names : List String} (h : Within t p)
    (hwalk : names.foldlM Place.step p = .ok q) :
    Within t q ∧ q.names = names.foldl upward p.names := by
  induction names generalizing p with
  | nil =>
      cases hwalk
      exact ⟨h, rfl⟩
  | cons name names ih =>
      rw [List.foldlM_cons] at hwalk
      cases hstep : p.step name with
      | error cause => rw [hstep] at hwalk; cases hwalk
      | ok next =>
          rw [hstep] at hwalk
          obtain ⟨hnext, hnames⟩ := h.step hstep
          rw [List.foldl_cons, ← hnames]
          exact ih hnext hwalk

end Place

theorem locate_append {t : Tree} {xs : List String} {p : Place} (h : t.locate xs = .ok p)
    (ys : List String) : t.locate (xs ++ ys) = ys.foldlM Place.step p := by
  unfold locate at h ⊢
  rw [List.foldlM_append, h]
  rfl

theorem locate_concat {t : Tree} {xs : List String} {p : Place} (h : t.locate xs = .ok p)
    (name : String) : t.locate (xs ++ [name]) = p.step name := by
  rw [locate_append h, List.foldlM_cons]
  cases p.step name <;> rfl

theorem locate_of_concat {t : Tree} {xs : List String} {name : String} {p : Place}
    (h : t.locate (xs ++ [name]) = .ok p) :
    ∃ above, t.locate xs = .ok above ∧ above.step name = .ok p := by
  cases hxs : t.locate xs with
  | error cause =>
      unfold locate at h hxs
      rw [List.foldlM_append, hxs] at h
      cases h
  | ok above => exact ⟨above, rfl, (locate_concat hxs name).symm.trans h⟩

theorem Place.step_ne_nullInPath (p : Place) (name : String) :
    p.step name ≠ .error .nullInPath :=
  fun h => nomatch step_eq_iff.mp h

theorem Place.step_nameTooLong {p : Place} {name : String}
    (h : p.step name = .error .nameTooLong) : maxName < name.utf8ByteSize := by
  cases step_eq_iff.mp h with
  | nameTooLong _ _ hsize => exact hsize

theorem Place.walk_ne_nullInPath (p : Place) (names : List String) :
    names.foldlM Place.step p ≠ .error .nullInPath := by
  induction names generalizing p with
  | nil => nofun
  | cons name names ih =>
      rw [List.foldlM_cons]
      cases hstep : p.step name with
      | ok next => exact ih next
      | error cause =>
          intro h
          cases h
          exact p.step_ne_nullInPath name hstep

/-- What a path leads to is at the place that the tree has for its names. -/
theorem locate_ok {t : Tree} {names : List String} {p : Place} (h : t.locate names = .ok p) :
    p.Within t ∧ p.names = plain names ∧ t.get? (plain names) = some p.here := by
  obtain ⟨hwithin, hnames⟩ := Place.Within.top.walk h
  have hplain : p.names = plain names := hnames
  exact ⟨hwithin, hplain, hplain ▸ hwithin.get?⟩

/-! ## Trees that grow -/

/-- Directories are still directories, and files still files, if perhaps with other bytes. -/
def Grows (t t' : Tree) : Prop :=
  ∀ names k, t.kind? names = some k →
    ∃ k', t'.kind? names = some k' ∧ (k = .directory ↔ k' = .directory)

namespace Grows

theorem refl (t : Tree) : t.Grows t :=
  fun _ k h => ⟨k, h, Iff.rfl⟩

variable {t t' t'' : Tree}

theorem trans (h : t.Grows t') (h' : t'.Grows t'') : t.Grows t'' := by
  intro names k hk
  obtain ⟨k', hk', hiff⟩ := h names k hk
  obtain ⟨k'', hk'', hiff'⟩ := h' names k' hk'
  exact ⟨k'', hk'', hiff.trans hiff'⟩

theorem directory (h : t.Grows t') {names : List String} (hk : t.kind? names = some .directory) :
    t'.kind? names = some .directory := by
  obtain ⟨k', hk', hiff⟩ := h names _ hk
  rw [hk', hiff.mp rfl]

theorem file (h : t.Grows t') {names : List String} {bytes : List UInt8}
    (hk : t.kind? names = some (.file bytes)) : ∃ bytes', t'.kind? names = some (.file bytes') := by
  obtain ⟨k', hk', hiff⟩ := h names _ hk
  cases k' with
  | directory => cases hiff.mpr rfl
  | file bytes' => exact ⟨bytes', hk'⟩

variable {p p' q : Place} {name : String}

/-- At the place of a directory there is still a directory. -/
theorem here (hg : t.Grows t') (h : p.Within t) (h' : p'.Within t') (hnames : p'.names = p.names)
    (hkind : p.here.kind = .directory) : p'.here.kind = .directory := by
  have hkind' : t'.kind? p'.names = some .directory := by
    rw [hnames]
    exact hg.directory (by rw [kind?, h.get?, Option.map_some, hkind])
  rw [kind?, h'.get?] at hkind'
  exact Option.some.inj hkind'

/-- A step that is possible stays so. -/
theorem step (hg : t.Grows t') (h : p.Within t) (h' : p'.Within t') (hnames : p'.names = p.names)
    (hstep : p.step name = .ok q) : ∃ q', p'.step name = .ok q' := by
  obtain ⟨hq, hqnames⟩ := h.step hstep
  cases Place.step_eq_iff.mp hstep with
  | up hdirectory hname =>
      exact ⟨_, Place.step_eq_iff.mpr (.up (hg.here h h' hnames hdirectory) hname)⟩
  | down hname hsize hentry =>
      -- the entry is there, as something is at its place
      obtain ⟨k', hk', -⟩ := hg _ _ (by rw [kind?, hq.get?]; rfl)
      rw [hqnames, upward, if_neg hname, ← hnames, kind?_append h'.get?, kind?_cons,
        Option.bind_eq_some_iff] at hk'
      obtain ⟨inner, hentry', -⟩ := hk'
      exact ⟨_, Place.step_eq_iff.mpr (.down hname hsize hentry')⟩

/-- A name that is too long stays so. -/
theorem step_nameTooLong (hg : t.Grows t') (h : p.Within t) (h' : p'.Within t')
    (hnames : p'.names = p.names) (hstep : p.step name = .error .nameTooLong) :
    p'.step name = .error .nameTooLong := by
  cases Place.step_eq_iff.mp hstep with
  | nameTooLong hdirectory hname hsize =>
      exact Place.step_eq_iff.mpr (.nameTooLong (hg.here h h' hnames hdirectory) hname hsize)

theorem walk (hg : t.Grows t') {names : List String} (h : p.Within t) (h' : p'.Within t')
    (hnames : p'.names = p.names) :
    (∀ q, names.foldlM Place.step p = .ok q → ∃ q', names.foldlM Place.step p' = .ok q')
      ∧ (names.foldlM Place.step p = .error .nameTooLong →
          names.foldlM Place.step p' = .error .nameTooLong) := by
  induction names generalizing p p' with
  | nil => exact ⟨fun q _ => ⟨p', rfl⟩, nofun⟩
  | cons name names ih =>
      rw [List.foldlM_cons, List.foldlM_cons]
      cases hstep : p.step name with
      | error cause =>
          refine ⟨nofun, fun hcause => ?_⟩
          cases hcause
          rw [hg.step_nameTooLong h h' hnames hstep]
          rfl
      | ok next =>
          obtain ⟨next', hstep'⟩ := hg.step h h' hnames hstep
          obtain ⟨hnext, hn⟩ := h.step hstep
          obtain ⟨hnext', hn'⟩ := h'.step hstep'
          rw [hstep']
          exact ih hnext hnext' (by rw [hn, hn', hnames])

/-- A path that leads to a place still does. -/
theorem locate (hg : t.Grows t') {names : List String} (h : t.locate names = .ok p) :
    ∃ p', t'.locate names = .ok p' :=
  (hg.walk .top .top rfl).1 p h

theorem locate_nameTooLong (hg : t.Grows t') {names : List String}
    (h : t.locate names = .error .nameTooLong) : t'.locate names = .error .nameTooLong :=
  (hg.walk .top .top rfl).2 h

end Grows

end Tree

end Stencil

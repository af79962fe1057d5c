import Mathlib.Data.List.Induction
import Stencil.Proofs.Selection

/-!
# When directories are made and files written

The operations on files can fail for the lengths of names and paths, or for what is there. If the paths
fit (`Disk.Fits`), a directory is made with all those above it unless a file is in the way
(`Disk.ensureDirectories_succeeds`), and a file is written into a directory unless its place is that of
a directory (`Disk.write_succeeds`).
-/

namespace Stencil

open Stencil.Tree

/-! ## Paths that fit -/

theorem Path.text_below (p : Path) (names : List String) :
    p.text = "." ∨ ∃ rest, (p.below names).text = p.text ++ rest := by
  have htext (q : Path) : q.text = "." ∨ q.text = q.root ++ "/".intercalate q.parts := by
    unfold text
    split
    · exact .inl rfl
    · exact .inr rfl
  have hjoined : ∃ rest,
      "/".intercalate (p.parts ++ names) = "/".intercalate p.parts ++ rest := by
    by_cases hparts : p.parts = []
    · exact ⟨"/".intercalate names, by simp [hparts]⟩
    · by_cases hnames : names = []
      · exact ⟨"", by simp [hnames]⟩
      · exact ⟨"/" ++ "/".intercalate names, by
          rw [String.intercalate_append_of_ne_nil hparts hnames, String.append_assoc]⟩
  rcases htext p with hp | hp
  · exact .inl hp
  · obtain ⟨rest, hrest⟩ := hjoined
    by_cases hempty : p.root = "" && p.parts.isEmpty
    · exact .inl (if_pos hempty)
    · refine .inr ⟨rest, ?_⟩
      have hbelow : ¬(((p.below names).root = "" && (p.below names).parts.isEmpty) = true) := by
        rw [Bool.and_eq_true, decide_eq_true_eq, List.isEmpty_iff, not_and] at hempty ⊢
        exact fun hroot hparts => hempty hroot (List.append_eq_nil_iff.mp hparts).1
      rw [text, if_neg hbelow, hp, String.append_assoc]
      exact congrArg (p.root ++ ·) hrest

namespace Disk

variable {d d' : Disk} {p base : Path} {name : String} {names : List String}

/-- Neither the path nor any name on its way is longer than it may be. -/
structure Fits (d : Disk) (p : Path) : Prop where
  noNull : '\x00' ∉ p.text.toList
  size : p.text.utf8ByteSize ≤ maxPath
  names : ∀ name ∈ d.names p, name.utf8ByteSize ≤ maxName

theorem Fits.locate (h : d.Fits p) : d.locate p = d.tree.locate (d.names p) := by
  rw [Disk.locate, if_neg (by simpa using h.noNull), if_neg (by have := h.size; omega)]

theorem Fits.of_below (h : d.Fits (p.below names)) : d.Fits p := by
  have hnames : ∀ name ∈ d.names p, name.utf8ByteSize ≤ maxName := fun name hname =>
    h.names name (by rw [names_below]; exact List.mem_append_left _ hname)
  rcases p.text_below names with hdot | ⟨rest, hrest⟩
  · exact ⟨by rw [hdot]; decide, by rw [hdot]; decide, hnames⟩
  · have hnull := h.noNull
    have hsize := h.size
    rw [hrest, String.toList_append, List.mem_append, not_or] at hnull
    rw [hrest, String.utf8ByteSize_append] at hsize
    exact ⟨hnull.1, by omega, hnames⟩

theorem Fits.of_keeps (hk : d.Keeps d') (h : d.Fits p) : d'.Fits p :=
  ⟨h.noNull, h.size, by rw [hk.names]; exact h.names⟩

theorem Fits.locate_ne_nameTooLong (h : d.Fits p) : d.locate p ≠ .error .nameTooLong := by
  have hwalk : ∀ (names : List String) (q : Place), (∀ name ∈ names, name.utf8ByteSize ≤ maxName) →
      names.foldlM Place.step q ≠ .error .nameTooLong := by
    intro names
    induction names with
    | nil => exact fun q _ => nofun
    | cons name names ih =>
        intro q hnames
        rw [List.forall_mem_cons] at hnames
        rw [List.foldlM_cons]
        cases hstep : q.step name with
        | ok next => exact ih next hnames.2
        | error cause =>
            intro hcause
            cases hcause
            have hlong := Place.step_nameTooLong hstep
            omega
  rw [h.locate]
  exact hwalk _ _ h.names

/-- Whether there is a file at a path that fits can be told. -/
theorem Fits.isFile (h : d.Fits p) : ∃ there, d.isFile p = .ok there := by
  have hne := h.locate_ne_nameTooLong
  rw [Disk.isFile, find?]
  cases hp : d.locate p with
  | ok q => exact ⟨_, rfl⟩
  | error cause => cases cause with
    | nameTooLong => exact absurd hp hne
    | notFound | alreadyThere | notDirectory | isDirectory | nullInPath => exact ⟨_, rfl⟩

/-! ## Paths to directories -/

/-- The path leads to a directory. -/
def HasDirectory (d : Disk) (p : Path) : Prop :=
  ∃ q, d.locate p = .ok q ∧ q.here.kind = .directory

theorem HasDirectory.kind? (h : d.HasDirectory p) : d.tree.kind? (d.place p) = some .directory := by
  obtain ⟨q, hq, hkind⟩ := h
  rw [locate_kind? hq, hkind]

theorem HasDirectory.of_keeps (hk : d.Keeps d') (h : d.HasDirectory p) : d'.HasDirectory p := by
  obtain ⟨q, hq, hkind⟩ := h
  obtain ⟨q', hq', hiff⟩ := hk.locate hq
  exact ⟨q', hq', hiff.mp hkind⟩

/-- What a path leads to is a directory if it is no file. -/
theorem hasDirectory_of_not_file {q : Place} (hq : d.locate p = .ok q)
    (hfree : ∀ bytes, d.tree.kind? (d.place p) ≠ some (.file bytes)) : d.HasDirectory p := by
  refine ⟨q, hq, ?_⟩
  rw [locate_kind? hq] at hfree
  cases hkind : q.here.kind with
  | directory => rfl
  | file bytes => exact absurd (congrArg some hkind) (hfree bytes)

theorem isDirectory_of_hasDirectory (h : d.HasDirectory p) : d.isDirectory p = .ok true := by
  obtain ⟨q, hq, hkind⟩ := h
  rw [isDirectory, find?, hq]
  exact congrArg Except.ok (isDirectory_iff_kind.mpr hkind)

/-- A name that fits leads from a directory somewhere or nowhere, and does not fail otherwise. -/
theorem HasDirectory.step (h : d.HasDirectory p) (hfits : d.Fits (p.below [name])) :
    (∃ q, d.locate (p.below [name]) = .ok q) ∨ d.locate (p.below [name]) = .error .notFound := by
  obtain ⟨q, hq, hkind⟩ := h
  have hsize : name.utf8ByteSize ≤ maxName :=
    hfits.names name (by rw [names_below]; simp)
  rw [hfits.locate, names_below, locate_concat (locate_of_ok hq)]
  by_cases hname : name = ".."
  · exact .inl ⟨_, Place.step_eq_iff.mpr (.up hkind hname)⟩
  · cases hentry : Entries.get? q.here.entries name with
    | none => exact .inr (Place.step_eq_iff.mpr (.notFound hkind hname hsize hentry))
    | some inner => exact .inl ⟨_, Place.step_eq_iff.mpr (.down hname hsize hentry)⟩

/-- What is at the place of a name in a directory is found under the name. -/
theorem HasDirectory.locate_of_kind? (h : d.HasDirectory p) (hfits : d.Fits (p.below [name]))
    (hname : name ≠ "..") {k : Kind} (hk : d.tree.kind? (d.place (p.below [name])) = some k) :
    ∃ q, d.locate (p.below [name]) = .ok q ∧ q.here.kind = k := by
  rcases h.step hfits with ⟨q, hq⟩ | hmissing
  · exact ⟨q, hq, Option.some.inj ((locate_kind? hq).symm.trans hk)⟩
  · -- the step would have found the entry
    obtain ⟨q, hq, -⟩ := h
    rw [place_below, List.foldl_cons, List.foldl_nil, upward, if_neg hname,
      kind?_append (locate_get? hq), kind?_cons, Option.bind_eq_some_iff] at hk
    obtain ⟨inner, hentry, -⟩ := hk
    rw [hfits.locate, names_below, locate_concat (locate_of_ok hq)] at hmissing
    cases Place.step_eq_iff.mp hmissing with
    | notFound _ _ _ hnone => cases hnone.symm.trans hentry

/-- The path leads to a directory in which nothing is. -/
def HasEmptyDirectory (d : Disk) (p : Path) : Prop :=
  ∃ q, d.locate p = .ok q ∧ q.here = .directory []

theorem HasEmptyDirectory.hasDirectory (h : d.HasEmptyDirectory p) : d.HasDirectory p := by
  obtain ⟨q, hq, hhere⟩ := h
  exact ⟨q, hq, by rw [hhere]; rfl⟩

theorem HasEmptyDirectory.kind?_below (h : d.HasEmptyDirectory p) {place : List String}
    (hbelow : d.place p <+: place) (hne : place ≠ d.place p) : d.tree.kind? place = none := by
  obtain ⟨q, hq, hhere⟩ := h
  obtain ⟨more, rfl⟩ := hbelow
  rw [kind?_append (locate_get? hq), hhere]
  cases more with
  | nil => exact absurd (List.append_nil _) hne
  | cons name more => rfl

/-- On a way on which there are no files, a path leads to a directory or nowhere. -/
theorem HasDirectory.below (h : d.HasDirectory base) (hfits : d.Fits (base.below names))
    (hfree : ∀ xs, xs <+: names → ∀ bytes,
      d.tree.kind? (d.place (base.below xs)) ≠ some (.file bytes)) :
    d.HasDirectory (base.below names) ∨ d.locate (base.below names) = .error .notFound := by
  induction names using List.reverseRecOn with
  | nil => exact .inl (by rwa [Path.below_nil])
  | append_singleton xs x ih =>
      rw [← Path.below_below] at hfits ⊢
      have hxs := ih hfits.of_below fun ys hys => hfree ys (hys.trans (List.prefix_append _ _))
      rcases hxs with hxs | hmissing
      · rcases hxs.step hfits with ⟨q, hq⟩ | hmissing
        · refine .inl (hasDirectory_of_not_file hq ?_)
          rw [Path.below_below]
          exact hfree _ (List.prefix_refl _)
        · exact .inr hmissing
      · rw [hfits.of_below.locate] at hmissing
        rw [hfits.locate, names_below]
        unfold Tree.locate at hmissing ⊢
        rw [List.foldlM_append, hmissing]
        exact .inr rfl

/-! ## Making directories -/

/-- The directories that are new are on the way from one path to another below it. -/
structure MakesWay (d d' : Disk) (base : Path) (names : List String) : Prop where
  adds : d.Adds d'
  only (other : List String) : d'.tree.kind? other = some .directory →
    d.tree.kind? other = some .directory ∨ ∃ xs, xs <+: names ∧ other = d.place (base.below xs)

theorem MakesWay.refl (d : Disk) (base : Path) (names : List String) : d.MakesWay d base names where
  adds := .refl d
  only _ h := .inl h

theorem parent_below (p : Path) (name : String) : (p.below [name]).parent = p := by
  simp [Path.parent, Path.below]

theorem create_succeeds (h : d.HasDirectory base) (name : String) (new : Tree) :
    ∃ d', d.create (base.below [name]) new = .ok d' := by
  obtain ⟨q, hq, hkind⟩ := h
  rw [create, parent_below, hq]
  exact ⟨_, if_pos (isDirectory_iff_kind.mpr hkind)⟩

theorem ensureDirectory_of_hasDirectory (h : d.HasDirectory p) :
    d.ensureDirectory p true = .ok d := by
  have hthere := isDirectory_of_hasDirectory h
  obtain ⟨q, hq, -⟩ := h
  rw [ensureDirectory, makeDirectory, hq]
  simp only [hthere]
  rfl

/-- A directory is made in another one unless there is a file. -/
theorem ensureDirectory_succeeds (h : d.HasDirectory base) (hfits : d.Fits (base.below [name]))
    (hfree : ∀ bytes, d.tree.kind? (d.place (base.below [name])) ≠ some (.file bytes)) :
    ∃ d', d.ensureDirectory (base.below [name]) true = .ok d'
      ∧ d'.HasDirectory (base.below [name]) ∧ d.Adds d'
      ∧ ∀ other, d'.tree.kind? other = some .directory →
          d.tree.kind? other = some .directory ∨ other = d.place (base.below [name]) := by
  rcases h.step hfits with ⟨q, hq⟩ | hmissing
  · have hthere := hasDirectory_of_not_file hq hfree
    exact ⟨d, ensureDirectory_of_hasDirectory hthere, hthere, .refl d, fun other h => .inl h⟩
  · obtain ⟨d', hd'⟩ := create_succeeds h name (.directory [])
    obtain ⟨hsets, hnone, hname⟩ := create_ok rfl hmissing hd'
    have hadds : d.Adds d' := hsets.adds hnone
    refine ⟨d', ?_, ?_, hadds, fun other hother => ?_⟩
    · rw [ensureDirectory, makeDirectory, hmissing]
      simp only [hd']
    · rw [Path.name, Path.below, List.getLastD_concat] at hname
      refine (h.of_keeps hadds.keeps).locate_of_kind? (hfits.of_keeps hadds.keeps) hname ?_
      rw [hadds.keeps.place, hsets.after, if_pos rfl]
      rfl
    · rw [hsets.after] at hother
      split at hother
      · next heq => exact .inr heq
      · exact .inl hother

theorem ensureDirectories_of_hasDirectory (h : d.HasDirectory p) (depth : Nat) :
    d.ensureDirectories p true depth = (.ok (), d) := by
  have hensure := ensureDirectory_of_hasDirectory h
  cases depth with
  | zero =>
      rw [ensureDirectories, hensure]
      rfl
  | succ depth =>
      obtain ⟨q, hq, -⟩ := h
      rw [ensureDirectories, makeDirectory, hq]
      simp only [hensure]
      rfl

/-- A way that has been made is made one step longer. -/
theorem MakesWay.extend {d₁ : Disk} {xs : List String} {x : String} (hway : d.MakesWay d₁ base xs)
    (hparent : d₁.HasDirectory (base.below xs)) (hfits : d.Fits ((base.below xs).below [x]))
    (hfree : ∀ bytes, d.tree.kind? (d.place ((base.below xs).below [x])) ≠ some (.file bytes)) :
    ∃ d', d₁.ensureDirectory ((base.below xs).below [x]) true = .ok d'
      ∧ d'.HasDirectory ((base.below xs).below [x]) ∧ d.MakesWay d' base (xs ++ [x]) := by
  have hkeeps := hway.adds.keeps
  have hfree₁ : ∀ bytes,
      d₁.tree.kind? (d₁.place ((base.below xs).below [x])) ≠ some (.file bytes) := by
    intro bytes hfile
    rw [hkeeps.place, ← file?_eq_some_iff, hway.adds.file?, file?_eq_some_iff] at hfile
    exact hfree bytes hfile
  obtain ⟨d', hd', hthere, hadds, honly⟩ :=
    ensureDirectory_succeeds hparent (hfits.of_keeps hkeeps) hfree₁
  refine ⟨d', hd', hthere, hway.adds.trans hadds, fun other hother => ?_⟩
  rcases honly other hother with hold | heq
  · refine (hway.only other hold).imp_right ?_
    rintro ⟨ys, hys, heq⟩
    exact ⟨ys, hys.trans (List.prefix_append _ _), heq⟩
  · refine .inr ⟨_, List.prefix_refl _, ?_⟩
    rw [heq, hkeeps.place, Path.below_below]

/-- Below a directory a way is made to a path unless there is a file on the way. -/
theorem ensureDirectories_succeeds (depth : Nat) (hdepth : names.length ≤ depth)
    (h : d.HasDirectory base) (hfits : d.Fits (base.below names))
    (hfree : ∀ xs, xs <+: names → ∀ bytes,
      d.tree.kind? (d.place (base.below xs)) ≠ some (.file bytes)) :
    ∃ d', d.ensureDirectories (base.below names) true depth = (.ok (), d')
      ∧ d'.HasDirectory (base.below names) ∧ d.MakesWay d' base names := by
  induction depth generalizing names with
  | zero =>
      obtain rfl : names = [] := List.length_eq_zero_iff.mp (by omega)
      rw [Path.below_nil]
      exact ⟨d, ensureDirectories_of_hasDirectory h 0, h, .refl d base []⟩
  | succ depth ih =>
      rcases h.below hfits hfree with hthere | hmissing
      · exact ⟨d, ensureDirectories_of_hasDirectory hthere _, hthere, .refl d base names⟩
      · rcases List.eq_nil_or_concat names with rfl | ⟨xs, x, rfl⟩
        · obtain ⟨q, hq, -⟩ := h
          rw [Path.below_nil, hq] at hmissing
          cases hmissing
        · rw [List.concat_eq_append] at *
          have hx := hfree _ (List.prefix_refl _)
          rw [← Path.below_below] at hfits hmissing hx ⊢
          have hxs : ∀ ys, ys <+: xs → ∀ bytes,
              d.tree.kind? (d.place (base.below ys)) ≠ some (.file bytes) :=
            fun ys hys => hfree ys (hys.trans (List.prefix_append _ _))
          rcases h.below hfits.of_below hxs with hparent | hnoParent
          · -- only the last directory is missing
            obtain ⟨d', hd', hthere, hway⟩ :=
              (MakesWay.refl d base xs).extend hparent hfits hx
            obtain ⟨made, hmade⟩ := create_succeeds hparent x (.directory [])
            refine ⟨d', ?_, hthere, hway⟩
            rw [ensureDirectories, makeDirectory, hmissing]
            simp only [hmade, hd']
            rfl
          · -- the way to the parent is made first
            obtain ⟨d₁, hd₁, hparent, hway₁⟩ :=
              ih (show xs.length ≤ depth by simpa using hdepth) hfits.of_below hxs
            obtain ⟨d', hd', hthere, hway⟩ := hway₁.extend hparent hfits hx
            refine ⟨d', ?_, hthere, hway⟩
            rw [ensureDirectories, makeDirectory, hmissing]
            simp only [create, parent_below, hnoParent, hd₁, hd']
            rfl

/-! ## Writing files -/

theorem write_succeeds (h : d.HasDirectory base) (hfits : d.Fits (base.below [name]))
    (hplace : d.tree.kind? (d.place (base.below [name])) ≠ some .directory) (bytes : List UInt8) :
    ∃ d', d.write (base.below [name]) bytes = .ok d' := by
  rcases h.step hfits with ⟨q, hq⟩ | hmissing
  · have hfile : ¬q.here.isDirectory := fun hdirectory =>
      hplace (by rw [locate_kind? hq, isDirectory_iff_kind.mp hdirectory])
    rw [write, hq]
    exact ⟨_, if_neg hfile⟩
  · rw [write, hmissing]
    exact create_succeeds h name (.file bytes)

/-- A path leads through directories only. -/
theorem kind?_of_locate_below {q : Place} (h : d.locate (p.below names) = .ok q)
    (hnames : names ≠ []) : d.tree.kind? (d.place p) = some .directory := by
  have hway := locate_of_ok h
  rw [names_below, Tree.locate, List.foldlM_append] at hway
  obtain ⟨above, habove, hrest⟩ := bind_eq_ok_iff.mp hway
  have hget := (locate_ok habove).2.2
  rw [place, kind?, hget, Option.map_some]
  cases names with
  | nil => exact absurd rfl hnames
  | cons name names =>
      rw [List.foldlM_cons] at hrest
      obtain ⟨next, hstep, -⟩ := bind_eq_ok_iff.mp hrest
      rw [(Place.step_eq_iff.mp hstep).directory]

/-- What a file is written below are directories. -/
theorem kind?_of_write {bytes : List UInt8} (h : d.write (p.below names) bytes = .ok d')
    (hnames : names ≠ []) : d.tree.kind? (d.place p) = some .directory := by
  unfold write at h
  cases hlocate : d.locate (p.below names) with
  | ok q => exact kind?_of_locate_below hlocate hnames
  | error cause =>
      rw [hlocate] at h
      cases cause with
      | notFound =>
          rcases List.eq_nil_or_concat names with rfl | ⟨xs, x, rfl⟩
          · exact absurd rfl hnames
          · rw [List.concat_eq_append, ← Path.below_below] at h
            simp only [create, parent_below] at h
            cases hparent : d.locate (p.below xs) with
            | error cause => rw [hparent] at h; cases h
            | ok q =>
                by_cases hxs : xs = []
                · rw [hparent] at h
                  simp only at h
                  split at h
                  · next hdirectory =>
                      rw [hxs, Path.below_nil] at hparent
                      rw [locate_kind? hparent, isDirectory_iff_kind.mp hdirectory]
                  · cases h
                · exact kind?_of_locate_below hparent hxs
      | alreadyThere | notDirectory | isDirectory | nameTooLong | nullInPath => cases h

end Disk

end Stencil

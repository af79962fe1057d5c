import Stencil.Proofs.Places

/-!
# What operations on files change

Each operation on files is described by what it does at the places of a disk. Making a directory and
writing a file set the place of their path (`Disk.Sets`), and nothing else; making a directory with
those above it adds directories where there was nothing (`Disk.Adds`). Directories and files stay what
they are (`Disk.Keeps`), so a file that no path of a written file leads to can be read as before
(`Disk.Keeps.readText`).
-/

namespace Stencil

open Stencil.Tree

/-! ## Paths with a last component -/

namespace Path

theorem parts_eq {p : Path} (h : p.parts ≠ []) : p.parts = p.parent.parts ++ [p.name] := by
  rw [parent, name, List.getLastD_eq_getLast?, List.getLast?_eq_some_getLast h, Option.getD_some]
  exact (List.dropLast_concat_getLast h).symm

theorem parent_eq_self {p : Path} (h : p.parts = []) : p.parent = p := by
  rw [parent, h]
  cases p
  cases h
  rfl

end Path

namespace Disk

variable {d d' d'' : Disk} {p : Path}

/-! ## Places of paths -/

/-- The names of the place that a path leads to if the way is there. -/
def place (d : Disk) (p : Path) : List String :=
  plain (d.names p)

/-- The bytes of the file at a place, if a file is there. -/
def file? (d : Disk) (names : List String) : Option (List UInt8) :=
  match d.tree.kind? names with
  | some (.file bytes) => some bytes
  | _ => none

theorem file?_eq_some_iff {names : List String} {bytes : List UInt8} :
    d.file? names = some bytes ↔ d.tree.kind? names = some (.file bytes) := by
  unfold file?
  rcases d.tree.kind? names with _ | (_ | found) <;> simp

theorem names_eq (d : Disk) (h : p.parts ≠ []) : d.names p = d.names p.parent ++ [p.name] := by
  unfold names Path.isAbsolute
  rw [Path.parts_eq h, ← List.append_assoc]
  split <;> simp_all [Path.parent]

theorem locate_of_ok {found : Place} (h : d.locate p = .ok found) :
    d.tree.locate (d.names p) = .ok found := by
  unfold locate at h
  split at h
  · cases h
  · split at h
    · cases h
    · exact h

theorem locate_of_notFound (h : d.locate p = .error .notFound) :
    d.tree.locate (d.names p) = .error .notFound := by
  unfold locate at h
  split at h
  · cases h
  · split at h
    · cases h
    · exact h

theorem locate_within {found : Place} (h : d.locate p = .ok found) : found.Within d.tree :=
  (locate_ok (locate_of_ok h)).1

theorem locate_names {found : Place} (h : d.locate p = .ok found) : found.names = d.place p :=
  (locate_ok (locate_of_ok h)).2.1

theorem locate_get? {found : Place} (h : d.locate p = .ok found) :
    d.tree.get? (d.place p) = some found.here :=
  (locate_ok (locate_of_ok h)).2.2

theorem locate_kind? {found : Place} (h : d.locate p = .ok found) :
    d.tree.kind? (d.place p) = some found.here.kind := by
  rw [kind?, locate_get? h]
  rfl

/-! ## Changes -/

/-- One place is set to something, and nothing else has changed. There was no directory. -/
structure Sets (d d' : Disk) (names : List String) (k : Kind) : Prop where
  current : d'.current = d.current
  before : d.tree.kind? names ≠ some .directory
  after (other : List String) :
    d'.tree.kind? other = if other = names then some k else d.tree.kind? other

/-- Directories are new where there was nothing, and nothing else has changed. -/
structure Adds (d d' : Disk) : Prop where
  current : d'.current = d.current
  kind? (names : List String) : d'.tree.kind? names = d.tree.kind? names
    ∨ d.tree.kind? names = none ∧ d'.tree.kind? names = some .directory

/-- All directories and files are still there, if perhaps with other bytes. -/
structure Keeps (d d' : Disk) : Prop where
  current : d'.current = d.current
  grows : d.tree.Grows d'.tree

theorem Adds.refl (d : Disk) : d.Adds d where
  current := rfl
  kind? _ := .inl rfl

theorem Adds.trans (h : d.Adds d') (h' : d'.Adds d'') : d.Adds d'' where
  current := h'.current.trans h.current
  kind? names := by
    rcases h'.kind? names with heq' | ⟨hnone', hnew'⟩
    · rcases h.kind? names with heq | ⟨hnone, hnew⟩
      · exact .inl (heq'.trans heq)
      · exact .inr ⟨hnone, heq'.trans hnew⟩
    · rcases h.kind? names with heq | ⟨hnone, hnew⟩
      · exact .inr ⟨heq.symm.trans hnone', hnew'⟩
      · cases hnone'.symm.trans hnew

theorem Adds.keeps (h : d.Adds d') : d.Keeps d' where
  current := h.current
  grows names k hk := by
    rcases h.kind? names with heq | ⟨hnone, -⟩
    · exact ⟨k, heq.trans hk, Iff.rfl⟩
    · cases hnone.symm.trans hk

theorem Adds.file? (h : d.Adds d') (names : List String) : d'.file? names = d.file? names := by
  unfold Disk.file?
  rcases h.kind? names with heq | ⟨hnone, hnew⟩
  · rw [heq]
  · rw [hnone, hnew]

theorem Keeps.refl (d : Disk) : d.Keeps d where
  current := rfl
  grows := Grows.refl d.tree

theorem Keeps.trans (h : d.Keeps d') (h' : d'.Keeps d'') : d.Keeps d'' where
  current := h'.current.trans h.current
  grows := h.grows.trans h'.grows

theorem Sets.adds {names : List String} (h : d.Sets d' names .directory)
    (hnone : d.tree.kind? names = none) : d.Adds d' where
  current := h.current
  kind? other := by
    rw [h.after]
    split
    · next heq => exact .inr ⟨heq ▸ hnone, rfl⟩
    · exact .inl rfl

theorem Sets.keeps {names : List String} {bytes : List UInt8} (h : d.Sets d' names (.file bytes)) :
    d.Keeps d' where
  current := h.current
  grows other k hk := by
    rw [h.after]
    split
    · next heq =>
        subst heq
        refine ⟨_, rfl, fun hdirectory => ?_, nofun⟩
        rw [hdirectory] at hk
        exact absurd hk h.before
    · exact ⟨k, hk, Iff.rfl⟩

theorem Sets.file? {names : List String} {bytes : List UInt8} (h : d.Sets d' names (.file bytes))
    (other : List String) :
    d'.file? other = if other = names then some bytes else d.file? other := by
  unfold Disk.file?
  rw [h.after]
  by_cases heq : other = names
  · rw [if_pos heq, if_pos heq]
  · rw [if_neg heq, if_neg heq]

/-! ## Making and writing -/

/-- Something empty is put where no directory is, in a directory that is there. -/
theorem sets_put {new : Tree} (hnew : new.entries = []) {names : List String}
    (hroom : names = [] ∨ d.tree.kind? names.dropLast = some .directory)
    (hbefore : d.tree.kind? names ≠ some .directory) :
    d.Sets { d with tree := d.tree.put new names } names new.kind where
  current := rfl
  before := hbefore
  after other := by
    rw [kind?_put hroom]
    split
    · next hbelow =>
        obtain ⟨more, rfl⟩ := hbelow
        rw [List.drop_left]
        cases more with
        | nil => rw [List.append_nil, if_pos rfl, kind?_nil]
        | cons name more =>
            rw [if_neg (by simp), kind?_append_eq_none (List.cons_ne_nil _ _) hbefore, kind?_cons,
              hnew]
            rfl
    · next hbelow =>
        rw [if_neg]
        rintro rfl
        exact hbelow (List.prefix_refl _)

/-- Something new is at the place of its path, where there was nothing. -/
theorem create_ok {new : Tree} (hnew : new.entries = []) (hmissing : d.locate p = .error .notFound)
    (h : d.create p new = .ok d') :
    d.Sets d' (d.place p) new.kind ∧ d.tree.kind? (d.place p) = none ∧ p.name ≠ ".." := by
  unfold create at h
  cases hparent : d.locate p.parent with
  | error cause => rw [hparent] at h; cases h
  | ok found =>
      have hparts : p.parts ≠ [] := by
        intro hnil
        rw [Path.parent_eq_self hnil, hmissing] at hparent
        cases hparent
      -- one step from the place of the parent does not lead anywhere
      have hstep : found.step p.name = .error .notFound := by
        rw [← locate_concat (locate_of_ok hparent), ← names_eq d hparts]
        exact locate_of_notFound hmissing
      rw [hparent] at h
      simp only at h
      split at h
      · next hdirectory =>
          cases h
          cases Place.step_eq_iff.mp hstep with
          | notFound _ hname _ hentry =>
              have hplace : found.names ++ [p.name] = d.place p := by
                rw [locate_names hparent, place, place, names_eq d hparts, plain_append,
                  List.foldl_cons, List.foldl_nil, upward, if_neg hname]
              have hnone : d.tree.kind? (d.place p) = none := by
                rw [← hplace, kind?_append (locate_within hparent).get?, kind?_cons, hentry]
                rfl
              refine ⟨?_, hnone, hname⟩
              rw [hplace]
              refine sets_put hnew (.inr ?_) (by simp [hnone])
              rw [← hplace, List.dropLast_concat, locate_names hparent, locate_kind? hparent,
                isDirectory_iff_kind.mp hdirectory]
      · cases h

theorem makeDirectory_ok (h : d.makeDirectory p = .ok d') :
    d.Sets d' (d.place p) .directory ∧ d.tree.kind? (d.place p) = none := by
  unfold makeDirectory at h
  split at h
  · cases h
  · next hmissing =>
      obtain ⟨hsets, hnone, -⟩ := create_ok rfl hmissing h
      exact ⟨hsets, hnone⟩
  · cases h

/-- Writing sets the place of the path, whose last component is a name. -/
theorem write_ok {bytes : List UInt8} (h : d.write p bytes = .ok d') :
    d.Sets d' (d.place p) (.file bytes) ∧ p.name ≠ ".." := by
  unfold write at h
  split at h
  · next found hfound =>
      split at h
      · cases h
      · next hdirectory =>
          cases h
          have hkind : found.here.kind ≠ .directory := by
            intro hk
            rw [eq_directory_of_kind hk] at hdirectory
            exact hdirectory rfl
          constructor
          · rw [locate_names hfound]
            refine sets_put rfl ?_ (by rw [locate_kind? hfound]; simpa using hkind)
            rcases List.eq_nil_or_concat (d.place p) with hnil | ⟨names, name, hplace⟩
            · exact .inl hnil
            · refine .inr ?_
              have hthere := locate_kind? hfound
              rw [List.concat_eq_append] at hplace
              rw [hplace] at hthere ⊢
              rw [List.dropLast_concat]
              exact kind?_of_append hthere (List.cons_ne_nil _ _)
          · -- two points at the end of the path would lead to a directory
            intro hup
            have hparts : p.parts ≠ [] := by
              intro hnil
              rw [Path.name, hnil] at hup
              exact absurd hup (by decide)
            have hway := locate_of_ok hfound
            rw [names_eq d hparts, hup] at hway
            obtain ⟨above, habove, hstep⟩ := locate_of_concat hway
            exact hkind ((locate_ok habove).1.directory_of_up hstep)
  · next hmissing =>
      obtain ⟨hsets, -, hname⟩ := create_ok rfl hmissing h
      exact ⟨hsets, hname⟩
  · cases h

theorem ensureDirectory_ok {mayBeThere : Bool} (h : d.ensureDirectory p mayBeThere = .ok d') :
    d.Adds d' := by
  unfold ensureDirectory at h
  cases hmake : d.makeDirectory p with
  | ok made =>
      rw [hmake] at h
      cases h
      obtain ⟨hsets, hnone⟩ := makeDirectory_ok hmake
      exact hsets.adds hnone
  | error e =>
      rw [hmake] at h
      simp only at h
      split at h
      · cases h
      · cases hthere : d.isDirectory p with
        | error cause => rw [hthere] at h; cases h
        | ok there =>
            rw [hthere] at h
            cases there with
            | true => cases h; exact .refl d
            | false => cases h

/-- An operation that adds directories if it succeeds leaves no trace if it fails. -/
theorem after_adds {result : Except FileError Disk}
    (h : ∀ d', result = .ok d' → d.Adds d') : d.Adds (d.after result).2 := by
  cases result with
  | error e => exact .refl d
  | ok d' => exact h d' rfl

theorem ensureDirectories_adds (d : Disk) (p : Path) (mayBeThere : Bool) (depth : Nat) :
    d.Adds (d.ensureDirectories p mayBeThere depth).2 := by
  induction depth generalizing p mayBeThere with
  | zero => exact after_adds fun _ => ensureDirectory_ok
  | succ depth ih =>
      rw [ensureDirectories]
      split
      · have hadds := ih p.parent true
        rcases habove : d.ensureDirectories p.parent true depth with ⟨e | ⟨⟩, d'⟩
        · rw [habove] at hadds
          exact hadds
        · rw [habove] at hadds
          exact hadds.trans (after_adds fun _ => ensureDirectory_ok)
      · exact after_adds fun _ => ensureDirectory_ok

/-! ## Looking -/

theorem find?_ok {found : Option Tree} (h : d.find? p = .ok found) :
    (∃ q, d.locate p = .ok q ∧ found = some q.here) ∨ (∃ cause, d.locate p = .error cause)
      ∧ found = none := by
  unfold find? at h
  split at h
  · next q hq =>
      cases h
      exact .inl ⟨q, hq, rfl⟩
  · cases h
  · next cause _ hcause =>
      cases h
      exact .inr ⟨⟨cause, hcause⟩, rfl⟩

/-- There is a directory at the path just if it leads to one. -/
theorem isDirectory_ok (h : d.isDirectory p = .ok true) :
    ∃ q, d.locate p = .ok q ∧ q.here.kind = .directory := by
  unfold isDirectory at h
  cases hfind : d.find? p with
  | error e => rw [hfind] at h; cases h
  | ok found =>
      rw [hfind] at h
      rcases find?_ok hfind with ⟨q, hq, rfl⟩ | ⟨-, rfl⟩
      · exact ⟨q, hq, isDirectory_iff_kind.mp (Except.ok.inj h)⟩
      · cases h

/-- There is a file at the path just if it leads to one. -/
theorem isFile_ok (h : d.isFile p = .ok true) :
    ∃ q, d.locate p = .ok q ∧ q.here.kind ≠ .directory := by
  unfold isFile at h
  cases hfind : d.find? p with
  | error e => rw [hfind] at h; cases h
  | ok found =>
      rw [hfind] at h
      rcases find?_ok hfind with ⟨q, hq, rfl⟩ | ⟨-, rfl⟩
      · refine ⟨q, hq, fun hdirectory => ?_⟩
        have hnot : (!q.here.isDirectory) = true := Except.ok.inj h
        rw [isDirectory_iff_kind.mpr hdirectory] at hnot
        cases hnot
      · cases h

theorem locate_of_has (h : d.has p = .ok true) : ∃ q, d.locate p = .ok q := by
  unfold has at h
  cases hfind : d.find? p with
  | error e => rw [hfind] at h; cases h
  | ok found =>
      rw [hfind] at h
      rcases find?_ok hfind with ⟨q, hq, -⟩ | ⟨-, rfl⟩
      · exact ⟨q, hq⟩
      · cases h

theorem locate_of_mem_entries {entry : String × Tree} (h : entry ∈ d.entries p) :
    ∃ q, d.locate p = .ok q ∧ entry ∈ q.here.entries := by
  unfold entries at h
  split at h
  · next q hq => exact ⟨q, hq, h⟩
  · cases h

theorem isFile_of_locate {q : Place} (h : d.locate p = .ok q) :
    d.isFile p = .ok (!q.here.isDirectory) := by
  rw [isFile, find?, h]
  rfl

/-- A file that is at a path can be read there. -/
theorem read_of_isFile (h : d.isFile p = .ok true) :
    ∃ bytes, d.file? (d.place p) = some bytes ∧ d.read p = .ok bytes := by
  obtain ⟨⟨here, above⟩, hq, hkind⟩ := isFile_ok h
  cases here with
  | directory es => exact absurd rfl hkind
  | file bytes =>
      refine ⟨bytes, file?_eq_some_iff.mpr (locate_kind? hq), ?_⟩
      rw [read, hq]

/-- The path leads somewhere, or is one that is refused whatever becomes of the files. -/
def Found (d : Disk) (p : Path) : Prop :=
  (∃ q, d.locate p = .ok q) ∨ d.locate p = .error .nameTooLong ∨ d.locate p = .error .nullInPath

namespace Keeps

theorem names (h : d.Keeps d') (p : Path) : d'.names p = d.names p := by
  unfold Disk.names
  rw [h.current]

theorem place (h : d.Keeps d') (p : Path) : d'.place p = d.place p := by
  unfold Disk.place
  rw [h.names]

theorem locate (h : d.Keeps d') {q : Place} (hq : d.locate p = .ok q) :
    ∃ q', d'.locate p = .ok q' ∧ (q.here.kind = .directory ↔ q'.here.kind = .directory) := by
  have hlocate : ∃ q', d'.locate p = .ok q' := by
    unfold Disk.locate at hq ⊢
    rw [h.names]
    split at hq
    · cases hq
    · next hnull =>
        rw [if_neg hnull]
        split at hq
        · cases hq
        · next hsize =>
            rw [if_neg hsize]
            exact h.grows.locate hq
  obtain ⟨q', hq'⟩ := hlocate
  obtain ⟨k', hk', hiff⟩ := h.grows _ _ (locate_kind? hq)
  rw [← h.place, locate_kind? hq', Option.some.injEq] at hk'
  exact ⟨q', hq', hk' ▸ hiff⟩

theorem locate_refused (h : d.Keeps d') {cause : FileCause}
    (hcause : cause = .nameTooLong ∨ cause = .nullInPath) (hp : d.locate p = .error cause) :
    d'.locate p = .error cause := by
  unfold Disk.locate at hp ⊢
  rw [h.names]
  split at hp
  · next hnull => rw [if_pos hnull]; exact hp
  · next hnull =>
      rw [if_neg hnull]
      split at hp
      · next hsize => rw [if_pos hsize]; exact hp
      · next hsize =>
          rw [if_neg hsize]
          rcases hcause with rfl | rfl
          · exact h.grows.locate_nameTooLong hp
          · exact absurd hp (Place.walk_ne_nullInPath _ _)

/-- Whether a file is at a path that is found does not change. -/
theorem isFile (h : d.Keeps d') (hp : d.Found p) : d'.isFile p = d.isFile p := by
  rcases hp with ⟨q, hq⟩ | hlong | hnull
  · obtain ⟨q', hq', hiff⟩ := h.locate hq
    rw [isFile_of_locate hq, isFile_of_locate hq', isDirectory_eq_of_kind_iff hiff]
  · rw [Disk.isFile, Disk.isFile, find?, find?, hlong, h.locate_refused (.inl rfl) hlong]
  · rw [Disk.isFile, Disk.isFile, find?, find?, hnull, h.locate_refused (.inr rfl) hnull]

/-- A file whose bytes have not changed has the text that it had. -/
theorem readText (h : d.Keeps d') (hp : d.Found p) (hfile : d.isFile p = .ok true)
    (hbytes : d'.file? (d.place p) = d.file? (d.place p)) : d'.readText p = d.readText p := by
  obtain ⟨bytes, hthere, hread⟩ := read_of_isFile hfile
  obtain ⟨bytes', hthere', hread'⟩ := read_of_isFile ((h.isFile hp).trans hfile)
  rw [h.place, hbytes, hthere, Option.some.injEq] at hthere'
  rw [Disk.readText, Disk.readText, hread, hread', hthere']

end Keeps

end Disk

end Stencil

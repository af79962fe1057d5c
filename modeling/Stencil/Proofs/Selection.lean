import Mathlib.Data.List.Nodup
import Stencil.Glob
import Stencil.Proofs.Files
import Stencil.Proofs.Relations

/-!
# What a pattern selects

The paths that a pattern selects are in order, and each is there once (`Glob.Pattern.paths_ok`). Each
leads somewhere, or is one that is refused whatever becomes of the files (`Disk.Found`). A pattern
whose double dots never lead above the directory in which it is looked for selects only what is below
that directory.
-/

namespace Stencil

open Stencil.Tree

/-! ## The order of paths -/

namespace Path

theorem nameLe_total (cs ds : List Char) : nameLe cs ds ∨ nameLe ds cs := by
  induction cs generalizing ds with
  | nil => exact .inl rfl
  | cons c cs ih => cases ds with
    | nil => exact .inr rfl
    | cons d ds =>
        simp only [nameLe]
        by_cases heq : c = d
        · subst heq
          simpa using ih ds
        · have hne : c.toNat ≠ d.toNat := fun h => heq (Char.toNat_inj.mp h)
          simp only [heq, Ne.symm heq, if_false, decide_eq_true_eq]
          omega

theorem nameLe_antisymm {cs ds : List Char} (h : nameLe cs ds) (h' : nameLe ds cs) : cs = ds := by
  induction cs generalizing ds with
  | nil => cases ds with
    | nil => rfl
    | cons d ds => cases h'
  | cons c cs ih => cases ds with
    | nil => cases h
    | cons d ds =>
        simp only [nameLe] at h h'
        by_cases heq : c = d
        · subst heq
          rw [if_pos rfl] at h h'
          rw [ih h h']
        · simp only [heq, Ne.symm heq, if_false, decide_eq_true_eq] at h h'
          omega

theorem nameLe_trans {cs ds es : List Char} (h : nameLe cs ds) (h' : nameLe ds es) :
    nameLe cs es := by
  induction cs generalizing ds es with
  | nil => rfl
  | cons c cs ih => cases ds with
    | nil => cases h
    | cons d ds => cases es with
      | nil => cases h'
      | cons e es =>
          simp only [nameLe] at h h' ⊢
          by_cases hcd : c = d
          · subst hcd
            rw [if_pos rfl] at h
            by_cases hce : c = e
            · rw [if_pos hce] at h' ⊢
              exact ih h h'
            · rw [if_neg hce] at h' ⊢
              exact h'
          · rw [if_neg hcd] at h
            by_cases hde : d = e
            · subst hde
              rw [if_neg hcd]
              exact h
            · rw [if_neg hde] at h'
              simp only [decide_eq_true_eq] at h h'
              have hce : c ≠ e := by
                rintro rfl
                omega
              rw [if_neg hce, decide_eq_true_eq]
              omega

theorem namesLe_total (ns ms : List String) : namesLe ns ms ∨ namesLe ms ns := by
  induction ns generalizing ms with
  | nil => exact .inl rfl
  | cons n ns ih => cases ms with
    | nil => exact .inr rfl
    | cons m ms =>
        simp only [namesLe]
        by_cases heq : n = m
        · subst heq
          simpa using ih ms
        · rw [if_neg heq, if_neg (Ne.symm heq)]
          exact nameLe_total _ _

theorem namesLe_trans {ns ms ks : List String} (h : namesLe ns ms) (h' : namesLe ms ks) :
    namesLe ns ks := by
  induction ns generalizing ms ks with
  | nil => rfl
  | cons n ns ih => cases ms with
    | nil => cases h
    | cons m ms => cases ks with
      | nil => cases h'
      | cons k ks =>
          simp only [namesLe] at h h' ⊢
          by_cases hnm : n = m
          · subst hnm
            rw [if_pos rfl] at h
            by_cases hnk : n = k
            · rw [if_pos hnk] at h' ⊢
              exact ih h h'
            · rw [if_neg hnk] at h' ⊢
              exact h'
          · rw [if_neg hnm] at h
            by_cases hmk : m = k
            · subst hmk
              rw [if_neg hnm]
              exact h
            · rw [if_neg hmk] at h'
              have hnk : n ≠ k := by
                rintro rfl
                exact hnm (String.toList_inj.mp (nameLe_antisymm h h'))
              rw [if_neg hnk]
              exact nameLe_trans h h'

theorem namesLe_antisymm {ns ms : List String} (h : namesLe ns ms) (h' : namesLe ms ns) :
    ns = ms := by
  induction ns generalizing ms with
  | nil => cases ms with
    | nil => rfl
    | cons m ms => cases h'
  | cons n ns ih => cases ms with
    | nil => cases h
    | cons m ms =>
        simp only [namesLe] at h h'
        by_cases heq : n = m
        · subst heq
          rw [if_pos rfl] at h h'
          rw [ih h h']
        · rw [if_neg heq] at h
          rw [if_neg (Ne.symm heq)] at h'
          exact absurd (String.toList_inj.mp (nameLe_antisymm h h')) heq

theorem le_antisymm {p q : Path} (h : p.le q) (h' : q.le p) : p = q := by
  have heq := namesLe_antisymm h h'
  rw [List.cons.injEq] at heq
  cases p
  cases q
  simp_all

theorem le_total (p q : Path) : p.le q || q.le p := by
  rw [Bool.or_eq_true]
  exact namesLe_total _ _

theorem le_trans (p q r : Path) (h : p.le q) (h' : q.le r) : p.le r :=
  namesLe_trans h h'

/-! ## Ways that stay inside -/

/-- The names, which start at a place `depth` names below some directory, never lead above it. -/
def staysInside : Nat → List String → Bool
  | _, [] => true
  | depth, name :: names =>
    if name = ".." then 0 < depth && staysInside (depth - 1) names
    else staysInside (depth + 1) names

theorem staysInside_mono {depth depth' : Nat} {names : List String} (hle : depth ≤ depth')
    (h : staysInside depth names) : staysInside depth' names := by
  induction names generalizing depth depth' with
  | nil => rfl
  | cons name names ih =>
      simp only [staysInside] at h ⊢
      split at h
      · next hup =>
          rw [if_pos hup]
          rw [Bool.and_eq_true, decide_eq_true_eq] at h ⊢
          exact ⟨by omega, ih (by omega) h.2⟩
      · next hup =>
          rw [if_neg hup]
          exact ih (by omega) h

theorem staysInside_append {depth : Nat} {xs : List String} (hxs : ".." ∉ xs) (ys : List String) :
    staysInside depth (xs ++ ys) = staysInside (depth + xs.length) ys := by
  induction xs generalizing depth with
  | nil => rfl
  | cons x xs ih =>
      rw [List.mem_cons, not_or] at hxs
      rw [List.cons_append, staysInside, if_neg (Ne.symm hxs.1), ih hxs.2, List.length_cons]
      congr 1
      omega

theorem staysInside_concat {depth : Nat} {xs : List String} {x : String} (hx : x ≠ "..")
    (h : staysInside depth xs) : staysInside depth (xs ++ [x]) := by
  induction xs generalizing depth with
  | nil => simp [staysInside, hx]
  | cons y ys ih =>
      rw [List.cons_append]
      simp only [staysInside] at h ⊢
      split at h
      · next hup =>
          rw [if_pos hup]
          rw [Bool.and_eq_true] at h ⊢
          exact ⟨h.1, ih h.2⟩
      · next hup =>
          rw [if_neg hup]
          exact ih h

/-- Where such names lead does not depend on the directory: they lead there from nowhere. -/
theorem foldl_upward_append {base more names : List String}
    (h : staysInside more.length names) :
    names.foldl upward (base ++ more) = base ++ names.foldl upward more := by
  induction names generalizing more with
  | nil => rfl
  | cons name names ih =>
      rw [List.foldl_cons, List.foldl_cons, upward, upward]
      simp only [staysInside] at h
      split at h
      · next hup =>
          rw [Bool.and_eq_true, decide_eq_true_eq] at h
          have hmore : more ≠ [] := List.ne_nil_of_length_pos h.1
          rw [if_pos hup, if_pos hup, List.dropLast_append_of_ne_nil hmore]
          exact ih (by rw [List.length_dropLast]; exact h.2)
      · next hup =>
          rw [if_neg hup, if_neg hup, List.append_assoc]
          exact ih (by rw [List.length_append, List.length_singleton]; exact h)

/-- A path with more components, taken as they are. -/
def below (p : Path) (names : List String) : Path :=
  { p with parts := p.parts ++ names }

@[simp] theorem below_nil (p : Path) : p.below [] = p := by
  rw [below, List.append_nil]

theorem below_below (p : Path) (xs ys : List String) :
    (p.below xs).below ys = p.below (xs ++ ys) := by
  simp [below]

theorem below_inj {p : Path} {xs ys : List String} : p.below xs = p.below ys ↔ xs = ys := by
  simp [below]

end Path

namespace Disk

theorem names_below (d : Disk) (p : Path) (names : List String) :
    d.names (p.below names) = d.names p ++ names := by
  unfold Disk.names
  have hroot : (p.below names).isAbsolute = p.isAbsolute := rfl
  rw [hroot]
  cases p.isAbsolute <;> simp [Path.below]

theorem place_below (d : Disk) (p : Path) (names : List String) :
    d.place (p.below names) = names.foldl upward (d.place p) := by
  rw [place, names_below, plain_append]
  rfl

/-- The place of a path below another one, if the way there never leads above it. -/
theorem place_below_of_staysInside (d : Disk) (p : Path) {names : List String}
    (h : Path.staysInside 0 names) : d.place (p.below names) = d.place p ++ plain names := by
  have hway := @Path.foldl_upward_append (d.place p) [] names h
  rw [List.append_nil] at hway
  rw [place_below, hway, plain]

theorem prefix_place_below (d : Disk) (p : Path) {names : List String}
    (h : Path.staysInside 0 names) : d.place p <+: d.place (p.below names) := by
  rw [place_below_of_staysInside d p h]
  exact List.prefix_append _ _

end Disk

/-! ## Well-formed trees -/

namespace Tree

/-- The entries of a directory have different names, and none of them is one or two points. -/
structure ProperEntries (es : Entries Tree) : Prop where
  nodup : es.names.Nodup
  noDot : "." ∉ es.names
  noDots : ".." ∉ es.names

/-- All directories of a tree have proper entries. -/
def WellFormed (t : Tree) : Prop :=
  ∀ names es, t.get? names = some (.directory es) → ProperEntries es

variable {t inner : Tree}

theorem WellFormed.get? (h : t.WellFormed) {names : List String}
    (hinner : t.get? names = some inner) : inner.WellFormed := by
  intro more es hmore
  refine h (names ++ more) es ?_
  rw [get?_append, hinner]
  exact hmore

theorem WellFormed.entries (h : t.WellFormed) : ProperEntries t.entries := by
  cases t with
  | file bytes => exact ⟨.nil, nofun, nofun⟩
  | directory es => exact h [] es rfl

theorem wellFormed_file (bytes : List UInt8) : (Tree.file bytes).WellFormed := by
  intro names es h
  cases names <;> cases h

theorem wellFormed_directory {es : Entries Tree} (hes : ProperEntries es)
    (h : ∀ e ∈ es, e.2.WellFormed) : (Tree.directory es).WellFormed := by
  intro names es' hnames
  cases names with
  | nil =>
      cases hnames
      exact hes
  | cons name names =>
      rw [Tree.get?, Option.bind_eq_some_iff] at hnames
      obtain ⟨inner, hentry, hinner⟩ := hnames
      exact h _ (Entries.mem_of_get? hentry) names es' hinner

/-- A name that leads to something has more to it than points. -/
theorem ProperEntries.ne_dots {es : Entries Tree} (h : ProperEntries es) {name : String}
    (hname : name ∈ es.names) : name ≠ "." ∧ name ≠ ".." := by
  constructor
  · rintro rfl
    exact h.noDot hname
  · rintro rfl
    exact h.noDots hname

theorem mem_directoriesIn {es : List (String × Tree)} {names : List String}
    (h : names ∈ directoriesIn es) :
    ∃ name inner rest, (name, inner) ∈ es ∧ rest ∈ inner.directories ∧ names = name :: rest := by
  induction es with
  | nil => cases h
  | cons e es ih =>
      obtain ⟨name, inner⟩ := e
      rw [directoriesIn, List.mem_append, List.mem_map] at h
      rcases h with ⟨rest, hrest, rfl⟩ | h
      · exact ⟨name, inner, rest, List.mem_cons_self, hrest, rfl⟩
      · obtain ⟨name', inner', rest, hmem, hrest⟩ := ih h
        exact ⟨name', inner', rest, List.mem_cons_of_mem _ hmem, hrest⟩

/-- The directories of a tree are there, and the way to them leads downwards only. -/
theorem get?_of_mem_directories (ht : t.WellFormed) {names : List String}
    (h : names ∈ t.directories) :
    ∃ inner, t.get? names = some inner ∧ "." ∉ names ∧ ".." ∉ names := by
  induction names generalizing t with
  | nil => exact ⟨t, rfl, nofun, nofun⟩
  | cons name names ih =>
      cases t with
      | file bytes => cases h
      | directory es =>
          rw [directories, List.mem_cons] at h
          obtain ⟨n, inner, rest, hmem, hrest, heq⟩ := mem_directoriesIn (h.resolve_left nofun)
          cases heq
          have hproper := ht [] es rfl
          have hentry := Entries.get?_of_mem hproper.nodup hmem
          have hname := hproper.ne_dots (List.mem_map_of_mem hmem)
          have hinner : (Tree.directory es).get? [name] = some inner := by
            rw [Tree.get?, Tree.entries, hentry]
            rfl
          obtain ⟨found, hfound, hdot, hdots⟩ := ih (ht.get? hinner) hrest
          refine ⟨found, ?_, ?_, ?_⟩
          · rw [Tree.get?, Tree.entries, hentry]
            exact hfound
          · rw [List.mem_cons, not_or]
            exact ⟨Ne.symm hname.1, hdot⟩
          · rw [List.mem_cons, not_or]
            exact ⟨Ne.symm hname.2, hdots⟩

/-- A way downwards to what is there ends there, unless a name is too long. -/
theorem Place.walk_down {p : Place} {names : List String} (hup : ".." ∉ names)
    (h : p.here.get? names = some inner) :
    (∃ q, names.foldlM Place.step p = .ok q)
      ∨ names.foldlM Place.step p = .error .nameTooLong := by
  induction names generalizing p with
  | nil => exact .inl ⟨p, rfl⟩
  | cons name names ih =>
      rw [List.mem_cons, not_or] at hup
      rw [Tree.get?, Option.bind_eq_some_iff] at h
      obtain ⟨next, hentry, hrest⟩ := h
      rw [List.foldlM_cons]
      have hstep : p.step name = .ok ⟨next, (name, p.here) :: p.above⟩
          ∨ p.step name = .error .nameTooLong := by
        rcases Nat.lt_or_ge maxName name.utf8ByteSize with hsize | hsize
        · exact .inr (step_eq_iff.mpr
            (.nameTooLong (kind_of_entry hentry) (Ne.symm hup.1) hsize))
        · exact .inl (step_eq_iff.mpr (.down (Ne.symm hup.1) hsize hentry))
      rcases hstep with hstep | hstep
      · rw [hstep]
        exact ih hup.2 hrest
      · rw [hstep]
        exact .inr rfl

end Tree

/-- What is below a place that a path leads to is found from there. -/
theorem Disk.found_below {d : Disk} {p : Path} {q : Place} {names : List String} {inner : Tree}
    (hq : d.locate p = .ok q) (hup : ".." ∉ names) (h : q.here.get? names = some inner) :
    d.Found (p.below names) := by
  unfold Found Disk.locate
  rw [names_below, locate_append (locate_of_ok hq)]
  by_cases hnull : (p.below names).text.toList.contains '\x00' = true
  · exact .inr (.inr (if_pos hnull))
  · rw [if_neg hnull]
    by_cases hsize : (p.below names).text.utf8ByteSize > maxPath
    · exact .inr (.inl (if_pos hsize))
    · rw [if_neg hsize]
      rcases Place.walk_down hup h with hway | hlong
      · exact .inl hway
      · exact .inr (.inl hlong)

/-- A single point leads nowhere. -/
theorem Disk.ne_dot_of_locate {d : Disk} (hd : d.tree.WellFormed) {p : Path} {name : String}
    {q : Place} (h : d.locate (p.below [name]) = .ok q) : name ≠ "." := by
  rintro rfl
  have hway := locate_of_ok h
  rw [names_below] at hway
  obtain ⟨above, habove, hstep⟩ := locate_of_concat hway
  have hproper := (hd.get? (locate_ok habove).2.2).entries
  cases Place.step_eq_iff.mp hstep with
  | up _ hname => exact absurd hname (by decide)
  | down _ _ hentry => exact hproper.noDot (List.mem_map_of_mem (Entries.mem_of_get? hentry))

/-! ## Selected paths -/

namespace Glob

/-- Some parts of a pattern, which start at a place `depth` names below some directory, never lead
above it. -/
def staysInside : Nat → List Part → Bool
  | _, [] => true
  | depth, .name name :: parts =>
    if name = ".." then 0 < depth && staysInside (depth - 1) parts
    else staysInside (depth + 1) parts
  | depth, .wild _ :: parts => staysInside (depth + 1) parts
  | depth, .anyDepth :: parts => staysInside depth parts

/-- The double dots of a pattern never lead above the directory in which it is looked for. -/
def Pattern.StaysInside (pattern : Pattern) : Prop :=
  staysInside 0 pattern.parts

variable {d : Disk} {directoriesOnly : Bool}

theorem mem_distinct {paths : List Path} {q : Path} (h : q ∈ distinct paths) : q ∈ paths := by
  induction paths with
  | nil => exact h
  | cons p paths ih =>
      rw [distinct, List.foldr_cons, List.mem_cons] at h
      rcases h with rfl | h
      · exact List.mem_cons_self
      · exact List.mem_cons_of_mem _ (ih (List.mem_filter.mp h).1)

theorem nodup_distinct (paths : List Path) : (distinct paths).Nodup := by
  induction paths with
  | nil => exact .nil
  | cons p paths ih =>
      rw [distinct, List.foldr_cons, List.nodup_cons]
      exact ⟨by simp, ih.filter _⟩

/-- The names by which a part of a pattern leads to a path from the one above it. -/
inductive Part.Leads : Part → List String → Prop
  | name (name : String) : Leads (.name name) [name]
  | wild (pieces : List Piece) {name : String} (h : name ≠ "..") : Leads (.wild pieces) [name]
  | anyDepth {names : List String} (h : ".." ∉ names) : Leads .anyDepth names

theorem Part.Leads.staysInside {part : Part} {parts : List Part} {names more : List String}
    (h : part.Leads names) {depth : Nat} (hparts : Glob.staysInside depth (part :: parts))
    (hmore : ∀ depth', Glob.staysInside depth' parts → Path.staysInside depth' more) :
    Path.staysInside depth (names ++ more) := by
  cases h with
  | name name =>
      simp only [Glob.staysInside] at hparts
      rw [List.singleton_append, Path.staysInside]
      split at hparts
      · next hup =>
          rw [if_pos hup]
          rw [Bool.and_eq_true] at hparts ⊢
          exact ⟨hparts.1, hmore _ hparts.2⟩
      · next hup =>
          rw [if_neg hup]
          exact hmore _ hparts
  | wild pieces hname =>
      rw [List.singleton_append, Path.staysInside, if_neg hname]
      exact hmore _ hparts
  | anyDepth hup =>
      rw [Path.staysInside_append hup]
      exact Path.staysInside_mono (Nat.le_add_right _ _) (hmore _ hparts)

/-- The paths are selected by the first part of a pattern: it leads on some ways to paths that are found,
from which the other parts select. Only a double star may select the same path on several ways. -/
def SelectedBy (d : Disk) (directoriesOnly : Bool) (part : Part) (parts : List Part) (p : Path)
    (paths : List Path) : Prop :=
  ∃ (ways : List (List String)) (found : List (List Path)),
    List.Forall₂ (fun names paths => select d directoriesOnly parts (p.below names) = .ok paths)
      ways found
    ∧ (∀ names ∈ ways, part.Leads names ∧ d.Found (p.below names) ∧ "." ∉ names)
    ∧ (∀ q ∈ paths, q ∈ found.flatten)
    ∧ (paths.Nodup ∨ paths = found.flatten ∧ ∃ names : List String,
        names.Nodup ∧ ways = names.map fun name => [name])

section FirstPart

variable {parts : List Part} {p : Path} {paths : List Path}

theorem selectedBy_name (hd : d.tree.WellFormed) {name : String}
    (h : select d directoriesOnly (.name name :: parts) p = .ok paths) :
    SelectedBy d directoriesOnly (.name name) parts p paths := by
  rw [select] at h
  obtain ⟨there, hthere, h⟩ := bind_eq_ok_iff.mp h
  cases there with
  | false =>
      cases h
      exact ⟨[], [], .nil, nofun, nofun, .inl .nil⟩
  | true =>
      obtain ⟨place, hplace⟩ : ∃ place, d.locate (p.below [name]) = .ok place := by
        split at hthere
        · obtain ⟨place, hplace, -⟩ := Disk.isDirectory_ok hthere
          exact ⟨place, hplace⟩
        · exact Disk.locate_of_has hthere
      refine ⟨[[name]], [paths], .cons h .nil, ?_, by simp, .inr ⟨by simp, [name], by simp⟩⟩
      intro names hmem
      rw [List.mem_singleton] at hmem
      subst hmem
      refine ⟨.name name, .inl ⟨place, hplace⟩, ?_⟩
      simpa using Ne.symm (Disk.ne_dot_of_locate hd hplace)

theorem nodup_entries (hd : d.tree.WellFormed) (p : Path) : ((d.entries p).map (·.1)).Nodup := by
  unfold Disk.entries
  split
  · next place hplace => exact (hd.get? (Disk.locate_get? hplace)).entries.nodup
  · exact .nil

theorem leads_of_mem_entries (hd : d.tree.WellFormed) (pieces : List Piece) {e : String × Tree}
    (h : e ∈ d.entries p) :
    (Part.wild pieces).Leads [e.1] ∧ d.Found (p.below [e.1]) ∧ "." ∉ [e.1] := by
  obtain ⟨name, t⟩ := e
  obtain ⟨place, hplace, hentry⟩ := Disk.locate_of_mem_entries h
  have hproper := (hd.get? (Disk.locate_get? hplace)).entries
  obtain ⟨hdot, hdots⟩ := hproper.ne_dots (List.mem_map_of_mem hentry)
  have hget : place.here.get? [name] = some t := by
    rw [Tree.get?, Entries.get?_of_mem hproper.nodup hentry]
    rfl
  exact ⟨.wild pieces hdots, Disk.found_below hplace (by simpa using Ne.symm hdots) hget,
    by simpa using Ne.symm hdot⟩

theorem selectedBy_wild (hd : d.tree.WellFormed) {pieces : List Piece}
    (h : select d directoriesOnly (.wild pieces :: parts) p = .ok paths) :
    SelectedBy d directoriesOnly (.wild pieces) parts p paths := by
  rw [select] at h
  obtain ⟨found, hfound, h⟩ := bind_eq_ok_iff.mp h
  cases h
  generalize hentries : (d.entries p).filter _ = entries at hfound
  have hsub : entries.Sublist (d.entries p) := hentries ▸ List.filter_sublist
  refine ⟨entries.map fun e => [e.1], found, ?_, ?_, fun q hq => hq, .inr ⟨rfl, ?_⟩⟩
  · rw [List.forall₂_map_left_iff]
    exact forall₂_of_mapM hfound
  · intro names hmem
    obtain ⟨e, hentry, rfl⟩ := List.mem_map.mp hmem
    exact leads_of_mem_entries hd pieces (hsub.subset hentry)
  · exact ⟨entries.map (·.1), (nodup_entries hd p).sublist (hsub.map _), by simp⟩

theorem selectedBy_anyDepth (hd : d.tree.WellFormed)
    (h : select d directoriesOnly (.anyDepth :: parts) p = .ok paths) :
    SelectedBy d directoriesOnly .anyDepth parts p paths := by
  rw [select] at h
  obtain ⟨found, hfound, h⟩ := bind_eq_ok_iff.mp h
  cases h
  refine ⟨_, found, forall₂_of_mapM hfound, ?_, fun q => mem_distinct, .inl (nodup_distinct _)⟩
  intro names hmem
  cases hplace : d.locate p with
  | error cause => rw [hplace] at hmem; cases hmem
  | ok place =>
      rw [hplace] at hmem
      obtain ⟨t, ht, hdot, hdots⟩ :=
        get?_of_mem_directories (hd.get? (Disk.locate_get? hplace)) hmem
      exact ⟨.anyDepth hdots, Disk.found_below hplace hdots ht, hdot⟩

theorem select_cons (hd : d.tree.WellFormed) {part : Part}
    (h : select d directoriesOnly (part :: parts) p = .ok paths) :
    SelectedBy d directoriesOnly part parts p paths := by
  cases part with
  | name => exact selectedBy_name hd h
  | wild => exact selectedBy_wild hd h
  | anyDepth => exact selectedBy_anyDepth hd h

end FirstPart

/-- What is selected is found, on a way that stays inside if the pattern does. -/
theorem select_mem (hd : d.tree.WellFormed) {parts : List Part} {p : Path} {paths : List Path}
    (hp : d.Found p) (h : select d directoriesOnly parts p = .ok paths) {q : Path} (hq : q ∈ paths) :
    d.Found q ∧ ∃ names, q = p.below names ∧ "." ∉ names
      ∧ ∀ depth, staysInside depth parts → Path.staysInside depth names := by
  induction parts generalizing p paths q with
  | nil =>
      cases h
      rw [List.mem_singleton] at hq
      subst hq
      exact ⟨hp, [], (Path.below_nil q).symm, nofun, fun _ _ => rfl⟩
  | cons part parts ih =>
      obtain ⟨ways, found, hways, hleads, hsub, -⟩ := select_cons hd h
      obtain ⟨inner, hinner, hq⟩ := List.mem_flatten.mp (hsub q hq)
      obtain ⟨names, hmem, hselect⟩ := forall₂_mem_right hways hinner
      obtain ⟨hpart, hfound, hdot⟩ := hleads names hmem
      obtain ⟨hq, more, rfl, hdot', hmore⟩ := ih hfound hselect hq
      refine ⟨hq, names ++ more, Path.below_below .., ?_, fun depth hparts =>
        hpart.staysInside hparts hmore⟩
      rw [List.mem_append, not_or]
      exact ⟨hdot, hdot'⟩

/-- Nothing is selected twice. -/
theorem nodup_of_select (hd : d.tree.WellFormed) {parts : List Part} {p : Path} {paths : List Path}
    (h : select d directoriesOnly parts p = .ok paths) : paths.Nodup := by
  induction parts generalizing p paths with
  | nil =>
      cases h
      exact List.nodup_singleton p
  | cons part parts ih =>
      obtain ⟨ways, found, hways, hleads, -, hnodup | ⟨rfl, names, hnames, rfl⟩⟩ := select_cons hd h
      · exact hnodup
      · rw [List.forall₂_map_left_iff] at hways
        rw [List.nodup_flatten]
        constructor
        · intro inner hinner
          obtain ⟨name, -, hselect⟩ := forall₂_mem_right hways hinner
          exact ih hselect
        · -- what is selected below different names is different
          have hmem := forall₂_and_mem_left hways
          refine forall₂_pairwise hmem hnames fun hne hx hy q hqx hqy => hne ?_
          obtain ⟨hx, hselectx⟩ := hx
          obtain ⟨hy, hselecty⟩ := hy
          obtain ⟨-, more, rfl, -⟩ :=
            select_mem hd (hleads _ (List.mem_map_of_mem hx)).2.1 hselectx hqx
          obtain ⟨-, more', heq, -⟩ :=
            select_mem hd (hleads _ (List.mem_map_of_mem hy)).2.1 hselecty hqy
          rw [Path.below_below, Path.below_below, Path.below_inj, List.singleton_append,
            List.singleton_append, List.cons.injEq] at heq
          exact heq.1

/-- The paths of a pattern are those that it selects, in their order. -/
theorem Pattern.paths_of_select {pattern : Pattern} {start : Path} {found sorted : List Path}
    (hthere : d.isDirectory start = .ok true)
    (h : select d pattern.directoriesOnly pattern.parts start = .ok found)
    (hperm : sorted.Perm found) (hsorted : sorted.Pairwise fun p q => p.le q) :
    pattern.paths d start = .ok sorted := by
  have hpaths : pattern.paths d start = .ok (found.mergeSort Path.le) :=
    bind_eq_ok_iff.mpr ⟨true, hthere, bind_eq_ok_iff.mpr ⟨found, h, rfl⟩⟩
  have heq : found.mergeSort Path.le = sorted :=
    List.Perm.eq_of_pairwise (fun p q _ _ hpq hqp => Path.le_antisymm hpq hqp)
      (List.pairwise_mergeSort Path.le_trans Path.le_total found) hsorted
      ((List.mergeSort_perm found Path.le).trans hperm.symm)
  rw [hpaths, heq]

/-- There is something selected only in a directory. -/
theorem Pattern.isDirectory_of_mem {pattern : Pattern} {start q : Path} {paths : List Path}
    (h : pattern.paths d start = .ok paths) (hq : q ∈ paths) : d.isDirectory start = .ok true := by
  unfold Pattern.paths at h
  obtain ⟨there, hthere, h⟩ := bind_eq_ok_iff.mp h
  cases there with
  | true => exact hthere
  | false =>
      cases h
      cases hq

/-- The paths that a pattern selects are in order, none of them twice. Each of them is found, and is
below the directory in which the pattern is looked for if the pattern stays inside. -/
theorem Pattern.paths_ok {pattern : Pattern} (hd : d.tree.WellFormed) {start : Path}
    {paths : List Path} (h : pattern.paths d start = .ok paths) :
    paths.Nodup ∧ paths.Pairwise (fun p q => p.le q)
      ∧ ∀ q ∈ paths, d.Found q ∧ ∃ names, q = start.below names ∧ "." ∉ names
          ∧ (pattern.StaysInside → Path.staysInside 0 names) := by
  unfold Pattern.paths at h
  obtain ⟨there, hthere, h⟩ := bind_eq_ok_iff.mp h
  cases there with
  | false =>
      cases h
      exact ⟨.nil, .nil, nofun⟩
  | true =>
      obtain ⟨found, hfound, h⟩ := bind_eq_ok_iff.mp h
      cases h
      obtain ⟨place, hplace, -⟩ := Disk.isDirectory_ok hthere
      refine ⟨(List.mergeSort_perm _ _).nodup_iff.mpr (nodup_of_select hd hfound),
        List.pairwise_mergeSort Path.le_trans Path.le_total found, fun q hq => ?_⟩
      obtain ⟨hq, names, rfl, hdot, hnames⟩ :=
        select_mem hd (.inl ⟨place, hplace⟩) hfound (List.mem_mergeSort.mp hq)
      exact ⟨hq, names, rfl, hdot, hnames 0⟩

end Glob

end Stencil

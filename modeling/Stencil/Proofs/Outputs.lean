import Mathlib.Data.List.TakeWhile
import Stencil.Proofs.Batches

/-!
# Where outputs lie

The output of a template lies below the output directory as the template lies below the input
directory, and has the name of the template without the suffix of templates. So two templates have one
output just if they lie in one directory and their names differ by that suffix
(`outputPath_distinct`).

Left out are the templates whose names leave one point or two without the suffix. Such a name is none,
but a step that stays in a directory or leads out of it.
-/

namespace Stencil

open Stencil.Tree

/-! ## Names without their suffix -/

namespace Path

/-- The suffix starts at the last point, unless nothing is before or after it. -/
theorem splitSuffix_append {rest ext : List Char} (hpoint : '.' ∉ ext) :
    splitSuffix (rest ++ '.' :: ext)
      = if ext = [] ∨ rest = [] then (rest ++ '.' :: ext, []) else (rest, '.' :: ext) := by
  have hafter : (rest ++ '.' :: ext).reverse.takeWhile (· ≠ '.') = ext.reverse := by
    rw [List.reverse_append, List.reverse_cons, List.append_assoc,
      List.takeWhile_append_of_pos (by simpa using fun c hc => ne_of_mem_of_not_mem hc hpoint)]
    simp
  have hlength : (rest ++ '.' :: ext).length - ext.length - 1 = rest.length := by
    simp only [List.length_append, List.length_cons]
    omega
  have hne : ext.length ≠ (rest ++ '.' :: ext).length := by
    simp only [List.length_append, List.length_cons]
    omega
  unfold splitSuffix
  simp only [hafter, List.length_reverse, hlength, List.take_left, hne, decide_false,
    Bool.false_or, List.isEmpty_reverse, Bool.or_eq_true, List.isEmpty_iff, List.reverse_reverse]

theorem splitSuffix_of_not_mem {cs : List Char} (h : '.' ∉ cs) : splitSuffix cs = (cs, []) := by
  have hafter : cs.reverse.takeWhile (· ≠ '.') = cs.reverse := by
    rw [List.takeWhile_eq_self_iff]
    simpa using fun c hc => ne_of_mem_of_not_mem hc h
  unfold splitSuffix
  simp only [hafter, List.length_reverse, decide_true, Bool.true_or, if_true]

/-- A name with a suffix is what is before the suffix, which is not empty, and the suffix. -/
theorem splitSuffix_eq_iff {cs rest ext : List Char} (hpoint : '.' ∉ ext) (hext : ext ≠ []) :
    splitSuffix cs = (rest, '.' :: ext) ↔ rest ≠ [] ∧ cs = rest ++ '.' :: ext := by
  constructor
  · intro h
    by_cases hmem : '.' ∈ cs
    · obtain ⟨after, before, hcs, hafter⟩ :=
        List.eq_append_cons_of_mem (List.mem_reverse.mpr hmem)
      obtain rfl : cs = before.reverse ++ '.' :: after.reverse := by
        rw [← List.reverse_reverse cs, hcs]
        simp
      rw [splitSuffix_append (by simpa using hafter)] at h
      split at h
      · cases h
      · next hboth =>
          cases h
          exact ⟨fun hrest => hboth (.inr hrest), rfl⟩
    · rw [splitSuffix_of_not_mem hmem] at h
      cases h
  · rintro ⟨hrest, rfl⟩
    rw [splitSuffix_append hpoint, if_neg (not_or.mpr ⟨hext, hrest⟩)]

end Path

/-- The name has nothing to shed: it does not end in the suffix of templates, or is that suffix. -/
def KeepsName (name : String) : Prop :=
  ∀ rest, rest ≠ "" → name ≠ rest ++ templateSuffix

/-- The name of an output, by the name of its template. -/
inductive OutputName : String → String → Prop
  | shed {rest : String} (h : rest ≠ "") : OutputName (rest ++ templateSuffix) rest
  | kept {name : String} (h : KeepsName name) : OutputName name name

theorem exists_outputName (name : String) : ∃ name', OutputName name name' := by
  by_cases h : KeepsName name
  · exact ⟨name, .kept h⟩
  · simp only [KeepsName, not_forall, not_not] at h
    obtain ⟨rest, hrest, rfl⟩ := h
    exact ⟨rest, .shed hrest⟩

/-- The suffix of a path is that of templates just if its name has it to shed, and then what is before
the suffix is left. -/
theorem suffix_eq_iff {p : Path} {rest : String} :
    p.suffix = templateSuffix ∧ String.ofList (Path.splitSuffix p.name.toList).1 = rest
      ↔ rest ≠ "" ∧ p.name = rest ++ templateSuffix := by
  have hsuffix : templateSuffix.toList = '.' :: "tmpl".toList := rfl
  have hsplit : Path.splitSuffix p.name.toList = (rest.toList, '.' :: "tmpl".toList)
      ↔ rest.toList ≠ [] ∧ p.name.toList = rest.toList ++ '.' :: "tmpl".toList :=
    Path.splitSuffix_eq_iff (by decide) (by decide)
  rw [← hsuffix, ← String.toList_append, String.toList_inj, Prod.ext_iff] at hsplit
  have hrest : String.ofList (Path.splitSuffix p.name.toList).1 = rest
      ↔ (Path.splitSuffix p.name.toList).1 = rest.toList := by
    rw [← String.toList_inj, String.toList_ofList]
  rw [ne_eq, ← String.toList_eq_nil_iff, ← ne_eq, ← hsplit, hrest, Path.suffix, and_comm,
    ← String.toList_inj, String.toList_ofList]

theorem outputPath_concat (input output : Path) {dir : List String} {name name' : String}
    (hdot : "." ∉ dir ++ [name]) (hname : OutputName name name') (hpoint : name' ≠ ".") :
    outputPath (input.below (dir ++ [name])) input output = .ok (output.below (dir ++ [name'])) := by
  have hlast : (⟨"", dir ++ [name]⟩ : Path).name = name := by
    rw [Path.name, List.getLastD_concat]
  unfold outputPath
  rw [Path.relativeTo_below]
  change Except.ok (output.join (if (⟨"", dir ++ [name]⟩ : Path).suffix = templateSuffix then
    (⟨"", dir ++ [name]⟩ : Path).dropSuffix else ⟨"", dir ++ [name]⟩)) = _
  cases hname with
  | shed hrest =>
      obtain ⟨hsuffix, hsplit⟩ := suffix_eq_iff.mpr ⟨hrest, hlast⟩
      rw [if_pos hsuffix, Path.dropSuffix, hsplit, List.dropLast_concat, Path.join_below_of_not_mem]
      rw [List.mem_append, not_or] at hdot ⊢
      exact ⟨hdot.1, by simpa using Ne.symm hpoint⟩
  | kept hkeeps =>
      rw [if_neg fun hsuffix => ?_, Path.join_below_of_not_mem _ hdot]
      obtain ⟨hrest, heq⟩ := suffix_eq_iff.mp ⟨hsuffix, rfl⟩
      exact hkeeps _ hrest (hlast.symm.trans heq)

/-! ## Templates and their outputs, side by side -/

/-- The names lie in one directory, and one of them is the other with the suffix of templates behind
it, which has nothing to shed itself. -/
def Twins (xs ys : List String) : Prop :=
  ∃ dir name, name ≠ "" ∧ KeepsName name
    ∧ (xs = dir ++ [name] ∧ ys = dir ++ [name ++ templateSuffix]
      ∨ ys = dir ++ [name] ∧ xs = dir ++ [name ++ templateSuffix])

/-- A template and its output lie in the same directory, one below `base` and one below `base'`. -/
def Mirrors (base base' xs ys : List String) : Prop :=
  ∃ dir name name', xs = base ++ dir ++ [name] ∧ ys = base' ++ dir ++ [name']
    ∧ OutputName name name'

/-- Different names have one name for their outputs just if one is the other with the suffix. -/
theorem OutputName.eq_iff {a a' b b' : String} (ha : OutputName a a') (hb : OutputName b b')
    (hne : a ≠ b) :
    a' = b' ↔ ∃ name, name ≠ "" ∧ KeepsName name
      ∧ (a = name ∧ b = name ++ templateSuffix ∨ b = name ∧ a = name ++ templateSuffix) := by
  constructor
  · rintro rfl
    cases ha with
    | shed hrest => cases hb with
      | shed => exact absurd rfl hne
      | kept hkeeps => exact ⟨_, hrest, hkeeps, .inr ⟨rfl, rfl⟩⟩
    | kept hkeeps => cases hb with
      | shed hrest => exact ⟨_, hrest, hkeeps, .inl ⟨rfl, rfl⟩⟩
      | kept => exact absurd rfl hne
  · have hshed : ∀ {name name' : String}, name ≠ "" → OutputName (name ++ templateSuffix) name' →
        name' = name := by
      intro name name' hname h
      generalize heq : name ++ templateSuffix = long at h
      cases h with
      | shed => exact (String.append_left_inj _).mp heq.symm
      | kept hkeeps => exact absurd heq.symm (hkeeps _ hname)
    have hkept : ∀ {name name' : String}, KeepsName name → OutputName name name' →
        name' = name := by
      intro name name' hname h
      cases h with
      | shed hrest => exact absurd rfl (hname _ hrest)
      | kept => rfl
    rintro ⟨name, hname, hkeeps, ⟨rfl, rfl⟩ | ⟨rfl, rfl⟩⟩
    · rw [hkept hkeeps ha, hshed hname hb]
    · rw [hshed hname ha, hkept hkeeps hb]

/-- Different templates have one output just if they are twins. -/
theorem Mirrors.eq_iff {base base' xs xs' ys ys' : List String} (h : Mirrors base base' xs ys)
    (h' : Mirrors base base' xs' ys') (hne : xs ≠ xs') : ys = ys' ↔ Twins xs xs' := by
  obtain ⟨dir, name, out, rfl, rfl, hout⟩ := h
  obtain ⟨dir', name', out', rfl, rfl, hout'⟩ := h'
  constructor
  · intro heq
    obtain ⟨hdir, hlast⟩ := List.append_inj' heq rfl
    obtain rfl := List.append_cancel_left hdir
    have hnames : name ≠ name' := by
      rintro rfl
      exact hne rfl
    obtain ⟨_, hshort, hkeeps, ⟨rfl, rfl⟩ | ⟨rfl, rfl⟩⟩ :=
      (hout.eq_iff hout' hnames).mp (List.singleton_inj.mp hlast)
    · exact ⟨_, _, hshort, hkeeps, .inl ⟨rfl, rfl⟩⟩
    · exact ⟨_, _, hshort, hkeeps, .inr ⟨rfl, rfl⟩⟩
  · rintro ⟨parent, short, hshort, hkeeps, htwins⟩
    have hcut : ∀ {dir : List String} {a b : String}, base ++ dir ++ [a] = parent ++ [b] →
        base ++ dir = parent ∧ a = b := fun h =>
      ⟨(List.append_inj' h rfl).1, List.singleton_inj.mp (List.append_inj' h rfl).2⟩
    have hboth : base ++ dir = base ++ dir' ∧ (name = short ∧ name' = short ++ templateSuffix
        ∨ name' = short ∧ name = short ++ templateSuffix) := by
      rcases htwins with ⟨hx, hx'⟩ | ⟨hx', hx⟩
      · exact ⟨(hcut hx).1.trans (hcut hx').1.symm, .inl ⟨(hcut hx).2, (hcut hx').2⟩⟩
      · exact ⟨(hcut hx).1.trans (hcut hx').1.symm, .inr ⟨(hcut hx').2, (hcut hx).2⟩⟩
    obtain ⟨hdir, hnames⟩ := hboth
    obtain rfl := List.append_cancel_left hdir
    have hnames' : name ≠ name' := by
      rintro rfl
      exact hne rfl
    rw [(hout.eq_iff hout' hnames').mpr ⟨short, hshort, hkeeps, hnames⟩]

/-! ## Selected templates -/

variable {d : Disk} {input output : Path}

/-- A file below a directory has a name of its own, which is no step upwards. -/
theorem Disk.exists_name_of_isFile {names : List String} (hinput : d.isDirectory input = .ok true)
    (hfile : d.isFile (input.below names) = .ok true) :
    ∃ dir name, names = dir ++ [name] ∧ name ≠ ".." := by
  obtain ⟨q, hq, hkind⟩ := isFile_ok hfile
  rcases List.eq_nil_or_concat names with rfl | ⟨dir, name, rfl⟩
  · obtain ⟨q', hq', hdirectory⟩ := isDirectory_ok hinput
    rw [Path.below_nil] at hq
    cases hq.symm.trans hq'
    exact absurd hdirectory hkind
  · rw [List.concat_eq_append] at hq ⊢
    refine ⟨dir, name, rfl, ?_⟩
    rintro rfl
    have hway := locate_of_ok hq
    rw [names_below, ← List.append_assoc] at hway
    obtain ⟨above, habove, hstep⟩ := locate_of_concat hway
    exact hkind ((locate_ok habove).1.directory_of_up hstep)

/-- The names of templates that leave nothing but points without their suffix. -/
def pointNames : List String := ["..tmpl", "...tmpl"]

/-- The name of an output is a name: it is neither one point nor two. -/
theorem OutputName.ne_points {name name' : String} (h : OutputName name name') (hdot : name ≠ ".")
    (hdots : name ≠ "..") (hname : name ∉ pointNames) : name' ≠ "." ∧ name' ≠ ".." := by
  cases h with
  | shed =>
      constructor
      · rintro rfl
        exact hname (by decide)
      · rintro rfl
        exact hname (by decide)
  | kept => exact ⟨hdot, hdots⟩

/-- A file among the selected paths whose name still is one without the suffix. -/
structure IsTemplate (d : Disk) (paths : List Path) (t : Path) : Prop where
  mem : t ∈ paths
  file : d.isFile t = .ok true
  named : t.name ∉ pointNames

/-- The output of a template lies below the output directory where the template lies below the input
directory: as their paths say, and also in the tree, if the pattern stays inside. -/
theorem IsTemplate.mirrors (hd : d.tree.WellFormed) {pattern : Glob.Pattern} {paths : List Path}
    (hpaths : pattern.paths d input = .ok paths) {t : Path} (ht : IsTemplate d paths t)
    (output : Path) :
    ∃ o, outputPath t input output = .ok o ∧ t.root = input.root ∧ o.root = output.root
      ∧ Mirrors input.parts output.parts t.parts o.parts
      ∧ (pattern.StaysInside → Mirrors (d.place input) (d.place output) (d.place t) (d.place o)) := by
  obtain ⟨hmem, hfile, hnamed⟩ := ht
  obtain ⟨-, -, hselected⟩ := Glob.Pattern.paths_ok hd hpaths
  obtain ⟨-, names, rfl, hdot, hinside⟩ := hselected t hmem
  obtain ⟨dir, name, rfl, hup⟩ :=
    Disk.exists_name_of_isFile (Glob.Pattern.isDirectory_of_mem hpaths hmem) hfile
  have hlast : (input.below (dir ++ [name])).name = name := by
    rw [Path.name, Path.below, ← List.append_assoc, List.getLastD_concat]
  rw [hlast] at hnamed
  have hnameDot : name ≠ "." := by
    rintro rfl
    exact hdot (by simp)
  obtain ⟨name', hout⟩ := exists_outputName name
  obtain ⟨hdot', hup'⟩ := hout.ne_points hnameDot hup hnamed
  refine ⟨_, outputPath_concat input output hdot hout hdot', rfl, rfl, ?_, fun hstays => ?_⟩
  · exact ⟨dir, name, name', (List.append_assoc ..).symm, (List.append_assoc ..).symm, hout⟩
  · have hdir : Path.staysInside 0 dir := Path.staysInside_of_append (hinside hstays)
    have hplace : ∀ (p : Path) {last : String}, last ≠ ".." →
        d.place (p.below (dir ++ [last])) = d.place p ++ plain dir ++ [last] := by
      intro p last hlast
      rw [d.place_below_of_staysInside p (Path.staysInside_concat hlast hdir), plain_append,
        List.foldl_cons, List.foldl_nil, upward, if_neg hlast, List.append_assoc]
    exact ⟨plain dir, name, name', hplace input hup, hplace output hup', hout⟩

/--
Outputs are below the output directory, each in the directory that its template has below the input
directory. Two templates have different outputs unless they are twins, and then they have one. The same
holds of the places in the tree, if the pattern does not lead out of the input directory; so no output
overwrites that of another file but of a twin.
-/
theorem outputPath_distinct (d : Disk) (hd : d.tree.WellFormed) (pattern : Glob.Pattern)
    (input output : Path) {paths : List Path} (hpaths : pattern.paths d input = .ok paths) :
    (∀ t, IsTemplate d paths t → ∃ o, outputPath t input output = .ok o ∧ o.root = output.root
        ∧ Mirrors input.parts output.parts t.parts o.parts
        ∧ (pattern.StaysInside →
            Mirrors (d.place input) (d.place output) (d.place t) (d.place o)))
      ∧ ∀ t₁ t₂ o₁ o₂, IsTemplate d paths t₁ → IsTemplate d paths t₂ →
          outputPath t₁ input output = .ok o₁ → outputPath t₂ input output = .ok o₂ →
          (t₁ ≠ t₂ → (o₁ = o₂ ↔ Twins t₁.parts t₂.parts))
            ∧ (pattern.StaysInside → d.place t₁ ≠ d.place t₂ →
                (d.place o₁ = d.place o₂ ↔ Twins (d.place t₁) (d.place t₂))) := by
  constructor
  · intro t ht
    obtain ⟨o, ho, -, hroot, hparts, hplace⟩ := ht.mirrors hd hpaths output
    exact ⟨o, ho, hroot, hparts, hplace⟩
  · intro t₁ t₂ o₁ o₂ ht₁ ht₂ ho₁ ho₂
    obtain ⟨o, ho, htroot₁, hroot₁, hparts₁, hplace₁⟩ := ht₁.mirrors hd hpaths output
    obtain rfl : o₁ = o := Except.ok.inj (ho₁.symm.trans ho)
    obtain ⟨o, ho, htroot₂, hroot₂, hparts₂, hplace₂⟩ := ht₂.mirrors hd hpaths output
    obtain rfl : o₂ = o := Except.ok.inj (ho₂.symm.trans ho)
    have hext : ∀ {p q : Path}, p.root = q.root → (p = q ↔ p.parts = q.parts) := by
      intro p q hroot
      cases p
      cases q
      cases hroot
      simp
    refine ⟨fun hne => ?_, fun hstays hne => (hplace₁ hstays).eq_iff (hplace₂ hstays) hne⟩
    rw [ne_eq, hext (htroot₁.trans htroot₂.symm)] at hne
    rw [hext (hroot₁.trans hroot₂.symm)]
    exact hparts₁.eq_iff hparts₂ hne

/-- An input directory in which one file is named by the suffix of templates alone and one by that
suffix twice, and another such file in a directory. -/
def Disk.dotted : Disk where
  tree := .directory [
    ("i", .directory [(".tmpl", .file []), (".tmpl.tmpl", .file []),
      ("p", .directory [(".tmpl.tmpl", .file [])])]),
    ("o", .directory [])]

/-- The pattern for all templates. -/
def templatePattern : Glob.Pattern where
  parts := [.anyDepth, .wild [.star, .char '.', .char 't', .char 'm', .char 'p', .char 'l']]
  directoriesOnly := false

theorem Disk.dotted_wellFormed : Disk.dotted.tree.WellFormed := by
  have hfile := Tree.wellFormed_file
  have hempty : (Tree.directory []).WellFormed :=
    Tree.wellFormed_directory ⟨.nil, nofun, nofun⟩ nofun
  refine Tree.wellFormed_directory ⟨by decide, by decide, by decide⟩ ?_
  simp only [List.forall_mem_cons, List.not_mem_nil, false_implies, implies_true, and_true]
  refine ⟨Tree.wellFormed_directory ⟨by decide, by decide, by decide⟩ ?_, hempty⟩
  simp only [List.forall_mem_cons, List.not_mem_nil, false_implies, implies_true, and_true]
  refine ⟨hfile _, hfile _, Tree.wellFormed_directory ⟨by decide, by decide, by decide⟩ ?_⟩
  simp only [List.forall_mem_cons, List.not_mem_nil, false_implies, implies_true, and_true]
  exact hfile _

/-- The templates that it selects there. -/
def dottedPaths : List Path :=
  [⟨"/", ["i", ".tmpl"]⟩, ⟨"/", ["i", ".tmpl.tmpl"]⟩, ⟨"/", ["i", "p", ".tmpl.tmpl"]⟩]

theorem paths_dotted : templatePattern.paths Disk.dotted ⟨"/", ["i"]⟩ = .ok dottedPaths :=
  Glob.Pattern.paths_of_select rfl rfl (.refl _) (by decide)

theorem isTemplate_dotted {t : Path} (h : t ∈ dottedPaths) : IsTemplate Disk.dotted dottedPaths t where
  mem := h
  file := by
    have hall : ∀ t ∈ dottedPaths, Disk.dotted.regular t := by decide +kernel
    exact Disk.isFile_of_regular (hall t h)
  named := by
    have hall : ∀ t ∈ dottedPaths, t.name ∉ pointNames := by decide
    exact hall t h

/-- Files of one name in different directories have different outputs. -/
theorem outputPath_distinct_directories :
    let input : Path := ⟨"/", ["i"]⟩
    let output : Path := ⟨"/", ["o"]⟩
    let t₁ : Path := ⟨"/", ["i", ".tmpl.tmpl"]⟩
    let t₂ : Path := ⟨"/", ["i", "p", ".tmpl.tmpl"]⟩
    let o₁ : Path := ⟨"/", ["o", ".tmpl"]⟩
    let o₂ : Path := ⟨"/", ["o", "p", ".tmpl"]⟩
    Disk.dotted.tree.WellFormed
      ∧ templatePattern.paths Disk.dotted input = .ok dottedPaths
      ∧ IsTemplate Disk.dotted dottedPaths t₁ ∧ IsTemplate Disk.dotted dottedPaths t₂
      ∧ outputPath t₁ input output = .ok o₁ ∧ outputPath t₂ input output = .ok o₂
      ∧ t₁ ≠ t₂ ∧ (o₁ = o₂ ↔ Twins t₁.parts t₂.parts)
      ∧ templatePattern.StaysInside ∧ Disk.dotted.place t₁ ≠ Disk.dotted.place t₂
      ∧ (Disk.dotted.place o₁ = Disk.dotted.place o₂
          ↔ Twins (Disk.dotted.place t₁) (Disk.dotted.place t₂)) := by
  intro input output t₁ t₂ o₁ o₂
  have ht₁ : IsTemplate Disk.dotted dottedPaths t₁ := isTemplate_dotted (by decide)
  have ht₂ : IsTemplate Disk.dotted dottedPaths t₂ := isTemplate_dotted (by decide)
  have ho₁ : outputPath t₁ input output = .ok o₁ := toOption_eq_some_iff.mp (by decide +kernel)
  have ho₂ : outputPath t₂ input output = .ok o₂ := toOption_eq_some_iff.mp (by decide +kernel)
  have hne : t₁ ≠ t₂ := by decide
  have hplace : Disk.dotted.place t₁ ≠ Disk.dotted.place t₂ := by decide
  obtain ⟨-, hdistinct⟩ := outputPath_distinct Disk.dotted Disk.dotted_wellFormed templatePattern
    input output paths_dotted
  obtain ⟨hpaths, hplaces⟩ := hdistinct t₁ t₂ o₁ o₂ ht₁ ht₂ ho₁ ho₂
  exact ⟨Disk.dotted_wellFormed, paths_dotted, ht₁, ht₂, ho₁, ho₂, hne, hpaths hne, rfl, hplace,
    hplaces rfl hplace⟩

/-- The file that is named by the suffix twice has the same output as the one that is named by it
once: the output of the latter overwrites that of the former. -/
theorem outputPath_not_distinct :
    let input : Path := ⟨"/", ["i"]⟩
    let output : Path := ⟨"/", ["o"]⟩
    Glob.Pattern.ofText? ({} : BatchOptions).pattern = .ok templatePattern
      ∧ templatePattern.paths Disk.dotted input = .ok dottedPaths
      ∧ ¬∀ t₁ t₂ o₁ o₂, IsTemplate Disk.dotted dottedPaths t₁ →
          IsTemplate Disk.dotted dottedPaths t₂ →
          outputPath t₁ input output = .ok o₁ → outputPath t₂ input output = .ok o₂ →
          t₁ ≠ t₂ → o₁ ≠ o₂ := by
  intro input output
  refine ⟨rfl, paths_dotted, fun hdistinct => ?_⟩
  have houtputs : ∀ name ∈ [".tmpl", ".tmpl.tmpl"],
      (outputPath ⟨"/", ["i", name]⟩ input output).toOption = some ⟨"/", ["o", ".tmpl"]⟩ := by
    decide +kernel
  exact hdistinct ⟨"/", ["i", ".tmpl"]⟩ ⟨"/", ["i", ".tmpl.tmpl"]⟩ _ _
    (isTemplate_dotted (by decide)) (isTemplate_dotted (by decide))
    (toOption_eq_some_iff.mp (houtputs _ (by decide)))
    (toOption_eq_some_iff.mp (houtputs _ (by decide))) (by decide) rfl

end Stencil

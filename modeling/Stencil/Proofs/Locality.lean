import Stencil.Proofs.Boundaries
import Stencil.Proofs.Tokenize

/-!
# Slices of tokens

Tokenizing is local: the text of a slice of a template's tokens that starts and ends with a literal
has just the tokens of the slice, counted from the start of the slice (`tokenize_local`). The
clusters of the slice are a run of the template's clusters, and these stay as they are when the run
stands alone; and a symbol among them is a symbol wherever it stands.
-/

namespace Stencil

open Text

/-! ## Positions -/

/-- A token with its position counted from `n` on. -/
def Token.since (n : Int) (t : Token) : Token :=
  { t with position := t.position - n }

variable {symbols : Symbols}

theorem map_since_prependCluster (c : String) (p q : Nat) (ts : List Token) :
    (prependCluster c (p + q) ts).map (Token.since p)
      = prependCluster c q (ts.map (Token.since p)) := by
  cases ts with
  | nil => rfl
  | cons t ts =>
      have hposition : ((p + q : Nat) : Int) - p = q := by omega
      simp only [prependCluster, List.map_cons, Token.since, hposition]

theorem tokensFrom_since (symbols : Symbols) (p q : Nat) (cs : List String) :
    (tokensFrom symbols (p + q) cs).map (Token.since p) = tokensFrom symbols q cs := by
  have hposition : ∀ n : Nat, ((p + n : Nat) : Int) - p = n := by omega
  induction cs generalizing q with
  | nil => simp only [tokensFrom_nil, List.map_cons, List.map_nil, Token.since, hposition]
  | cons c cs ih =>
      cases h : symbols.kind? c with
      | none =>
          rw [tokensFrom_plain h, tokensFrom_plain h, map_since_prependCluster, Nat.add_assoc, ih]
      | some k =>
          rw [tokensFrom_symbol h, tokensFrom_symbol h, Nat.add_assoc]
          simp only [List.map_cons, Token.since, hposition, ih]

/-! ## Cutting tokens at a symbol -/

/-- A symbol parts the clusters as it parts the tokens. -/
theorem exists_clusters_of_symbol {p : Nat} {cs : List String} {ts us : List Token} {t : Token}
    (h : tokensFrom symbols p cs = ts ++ t :: us) (ht : t.kind ≠ .literal) :
    ∃ before after, cs = before ++ t.text :: after ∧ t.position = (p + before.length : Nat)
      ∧ tokensFrom symbols p before = ts
      ∧ tokensFrom symbols (p + before.length + 1) after = us := by
  induction cs generalizing p ts with
  | nil =>
      rw [tokensFrom_nil] at h
      cases ts with
      | nil => cases h; exact absurd rfl ht
      | cons t' ts => simp at h
  | cons c cs ih =>
      have hlength : ∀ before : List String,
          p + 1 + before.length = p + (c :: before).length := fun before => by
        rw [List.length_cons]
        omega
      cases hc : symbols.kind? c with
      | none =>
          obtain ⟨text, rest, heq⟩ := tokensFrom_eq_cons symbols (p + 1) cs
          rw [tokensFrom_plain hc, heq, prependCluster] at h
          cases ts with
          | nil => cases h; exact absurd rfl ht
          | cons l ts =>
              rw [List.cons_append, List.cons.injEq] at h
              obtain ⟨rfl, rfl⟩ := h
              rw [← List.cons_append] at heq
              obtain ⟨before, after, rfl, hposition, hbefore, hafter⟩ := ih heq
              rw [hlength] at hposition hafter
              refine ⟨c :: before, after, rfl, hposition, ?_, hafter⟩
              rw [tokensFrom_plain hc, hbefore, prependCluster]
      | some k =>
          rw [tokensFrom_symbol hc] at h
          cases ts with
          | nil => cases h; exact absurd rfl ht
          | cons l ts => cases ts with
            | nil =>
                rw [List.cons_append, List.nil_append, List.cons.injEq, List.cons.injEq] at h
                obtain ⟨rfl, rfl, rfl⟩ := h
                exact ⟨[], cs, rfl, rfl, tokensFrom_nil p, rfl⟩
            | cons s ts =>
                rw [List.cons_append, List.cons_append, List.cons.injEq, List.cons.injEq] at h
                obtain ⟨rfl, rfl, hrest⟩ := h
                obtain ⟨before, after, rfl, hposition, hbefore, hafter⟩ := ih hrest
                rw [hlength] at hposition hafter
                refine ⟨c :: before, after, rfl, hposition, ?_, hafter⟩
                rw [tokensFrom_symbol hc, hbefore]

/-- The tokens between two symbols are those of the clusters between them. -/
theorem exists_clusters_between {p : Nat} {cs : List String}
    {before between after : List Token} {t u : Token}
    (h : tokensFrom symbols p cs = before ++ t :: (between ++ u :: after))
    (ht : t.kind ≠ .literal) (hu : u.kind ≠ .literal) :
    ∃ body q, t.text :: (body ++ [u.text]) <:+: cs ∧ tokensFrom symbols q body = between := by
  obtain ⟨front, rest, rfl, -, -, hrest⟩ := exists_clusters_of_symbol h ht
  obtain ⟨body, back, rfl, -, hbody, -⟩ := exists_clusters_of_symbol hrest hu
  exact ⟨body, _, ⟨front, back, by simp⟩, hbody⟩

/-- The tokens from the literal with index `2 * i` up to the one with index `2 * j`. -/
def slice (i j : Nat) (ts : List Token) : List Token :=
  (ts.take (2 * j + 1)).drop (2 * i)

/-- The token at an odd place is a symbol, where the stream can be cut. -/
theorem Alternating.cut {ts : List Token} (h : Alternating ts) {i : Nat}
    (hi : 2 * i + 1 < ts.length) :
    ∃ t, t.kind ≠ .literal ∧ ts = ts.take (2 * i + 1) ++ t :: ts.drop (2 * (i + 1)) := by
  refine ⟨ts[2 * i + 1], fun hkind => ?_, ?_⟩
  · have heven := (h.2 (2 * i + 1) hi).mp hkind
    omega
  · rw [show 2 * (i + 1) = 2 * i + 1 + 1 by omega, ← List.drop_eq_getElem_cons hi,
      List.take_append_drop]

theorem exists_clusters_of_drop {p i : Nat} {cs : List String}
    (hi : 2 * i < (tokensFrom symbols p cs).length) :
    ∃ before after, cs = before ++ after
      ∧ (tokensFrom symbols p cs).drop (2 * i) = tokensFrom symbols (p + before.length) after := by
  cases i with
  | zero => exact ⟨[], cs, rfl, rfl⟩
  | succ i =>
      obtain ⟨t, ht, hcut⟩ := (alternating_tokensFrom symbols p cs).cut (i := i) (by omega)
      obtain ⟨before, after, rfl, -, -, hafter⟩ := exists_clusters_of_symbol hcut ht
      refine ⟨before ++ [t.text], after, by simp, ?_⟩
      rw [← hafter, List.length_append]
      rfl

theorem exists_clusters_of_take {p j : Nat} {cs : List String}
    (hj : 2 * j < (tokensFrom symbols p cs).length) :
    ∃ before after, cs = before ++ after
      ∧ (tokensFrom symbols p cs).take (2 * j + 1) = tokensFrom symbols p before := by
  by_cases hlast : 2 * j + 1 = (tokensFrom symbols p cs).length
  · exact ⟨cs, [], (List.append_nil cs).symm, List.take_of_length_le (by omega)⟩
  · obtain ⟨t, ht, hcut⟩ := (alternating_tokensFrom symbols p cs).cut (i := j) (by omega)
    obtain ⟨before, after, rfl, -, hbefore, -⟩ := exists_clusters_of_symbol hcut ht
    exact ⟨before, t.text :: after, rfl, hbefore.symm⟩

/-- The tokens of a slice are those of a run of clusters. -/
theorem exists_run_of_slice {p i j : Nat} {cs : List String} (hij : i ≤ j)
    (hj : 2 * j < (tokensFrom symbols p cs).length) :
    ∃ run q, run <:+: cs ∧ slice i j (tokensFrom symbols p cs) = tokensFrom symbols q run := by
  obtain ⟨before, after, rfl, htake⟩ := exists_clusters_of_take hj
  have hlength := congrArg List.length htake
  rw [List.length_take] at hlength
  have hi : 2 * i < (tokensFrom symbols p before).length := by omega
  obtain ⟨skipped, run, rfl, hdrop⟩ := exists_clusters_of_drop hi
  refine ⟨run, p + skipped.length, ⟨skipped, after, rfl⟩, ?_⟩
  rw [slice, htake, hdrop]

/-- The first token of a slice is the literal that it starts with. -/
theorem head?_slice {i j : Nat} {ts : List Token} (hij : i ≤ j) (hi : 2 * i < ts.length) :
    (slice i j ts).head? = some ts[2 * i] := by
  rw [slice, List.head?_drop, List.getElem?_take_of_lt (by omega), List.getElem?_eq_getElem hi]

theorem tokenize_slice {text : String} {i j : Nat} (hij : i ≤ j)
    (hj : 2 * j < (tokenize symbols text).length) :
    tokenize symbols (sourceOf (slice i j (tokenize symbols text)))
      = (slice i j (tokenize symbols text)).map
          (Token.since (tokenize symbols text)[2 * i].position) := by
  obtain ⟨run, q, hrun, hslice⟩ : ∃ run q, run <:+: Text.segment text
      ∧ slice i j (tokenize symbols text) = tokensFrom symbols q run := exists_run_of_slice hij hj
  have hhead := head?_slice hij (by omega : 2 * i < (tokenize symbols text).length)
  rw [hslice, tokensFrom, List.head?_cons, Option.some.injEq] at hhead
  rw [← hhead, hslice, sourceOf_tokensFrom, tokenize_eq, segment_join_of_infix hrun]
  exact (tokensFrom_since symbols q 0 run).symm

/-- A literal has no symbol in it, so it is one literal when it stands alone. -/
theorem tokenize_of_literal {text : String} {t : Token} (ht : t ∈ tokenize symbols text)
    (hkind : t.kind = .literal) : tokenize symbols t.text = [⟨.literal, t.text, 0⟩] := by
  obtain ⟨run, q, hpart, hmade⟩ := exists_run_of_mem_tokensFrom ht
  rw [hmade.text, tokenize_eq, segment_join_of_infix hpart,
    tokensFrom_of_plain 0 (hmade.literal hkind)]
  rfl

/--
Tokenizing is local, for every table of symbols: the text of the tokens from one literal up to
another has just these tokens, with their positions counted from the first of them. So the text of a
literal is that one literal again; and a run of clusters of a text is cut into the same clusters
when it stands alone. The clusters are those of the rules, which look at all that is before a
character.
-/
theorem tokenize_local (symbols : Symbols) (text : String) :
    (∀ i j (_ : i ≤ j) (hj : 2 * j < (tokenize symbols text).length),
        tokenize symbols (sourceOf (slice i j (tokenize symbols text)))
          = (slice i j (tokenize symbols text)).map
              (Token.since (tokenize symbols text)[2 * i].position))
      ∧ (∀ t ∈ tokenize symbols text, t.kind = .literal →
          tokenize symbols t.text = [⟨.literal, t.text, 0⟩])
      ∧ (∀ run, run <:+: Text.segment text → Text.segment (String.join run) = run)
      ∧ ∀ xs y ys, xs ≠ [] → text.toList = xs ++ y :: ys →
          (Boundary xs text.toList
            ↔ BreakClass.unbroken (xs.map breakClass).reverse (breakClass y) = false) := by
  refine ⟨fun i j hij hj => tokenize_slice hij hj, fun t => tokenize_of_literal,
    fun run => segment_join_of_infix, fun xs y ys hxs htext => ?_⟩
  rw [htext]
  exact boundary_iff_not_unbroken hxs y ys

/-- Flags, and a pictograph with a joiner, cut out of a text between symbols. -/
theorem tokenize_local_flags :
    2 * 2 < (tokenize {} "🇩🇪\x7b👩‍🚀\x7d🇫🇷🇮🇹|").length
      ∧ sourceOf (slice 1 2 (tokenize {} "🇩🇪\x7b👩‍🚀\x7d🇫🇷🇮🇹|")) = "👩‍🚀\x7d🇫🇷🇮🇹"
      ∧ tokenize {} "👩‍🚀\x7d🇫🇷🇮🇹"
        = (slice 1 2 (tokenize {} "🇩🇪\x7b👩‍🚀\x7d🇫🇷🇮🇹|")).map (Token.since 2) := by
  have hj : 2 * 2 < (tokenize {} "🇩🇪\x7b👩‍🚀\x7d🇫🇷🇮🇹|").length := by decide +kernel
  have hsource : sourceOf (slice 1 2 (tokenize {} "🇩🇪\x7b👩‍🚀\x7d🇫🇷🇮🇹|")) = "👩‍🚀\x7d🇫🇷🇮🇹" := by
    decide +kernel
  have hfirst : (tokenize {} "🇩🇪\x7b👩‍🚀\x7d🇫🇷🇮🇹|")[2 * 1]? = some ⟨.literal, "👩‍🚀", 2⟩ := by
    decide +kernel
  obtain ⟨_, hfirst⟩ := List.getElem?_eq_some_iff.mp hfirst
  obtain ⟨hslices, -⟩ := tokenize_local {} "🇩🇪\x7b👩‍🚀\x7d🇫🇷🇮🇹|"
  have hslice := hslices 1 2 (by decide) hj
  rw [hsource, hfirst] at hslice
  exact ⟨hj, hsource, hslice⟩

end Stencil

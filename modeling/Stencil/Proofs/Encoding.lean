import Stencil.Disk
import Stencil.Proofs.Boundaries
import Stencil.Proofs.Relations

/-!
# Bytes and their text

Bytes that are the encoding of a text are that of no other one: what is read from them is written as
just these bytes again (`encodeUtf8_of_decodeUtf8`), and two texts with the same bytes are the same
(`encodeUtf8_injective`). The decoder refuses overlong sequences and halves of surrogate pairs,
which would have a shorter encoding or none. So for each length of a sequence its bytes can be
computed back from the character.

Reading a file also turns its line ends into line feeds. That leaves a text alone just if it has no
carriage return (`unifyLineEnds_eq_self_iff`), and it leaves all clusters alone but for the line ends
themselves (`mem_clusters_unifyLineEnds`), as no cluster reaches over a line end.
-/

namespace Stencil.Text

/-! ## The bytes of a text -/

theorem toList_loop_eq (bytes : ByteArray) (i : Nat) (before : List UInt8) :
    ByteArray.toList.loop bytes i before = before.reverse ++ bytes.data.toList.drop i := by
  fun_induction ByteArray.toList.loop bytes i before with
  | case1 i before hi ih =>
      have hi' : i < bytes.data.toList.length := by simpa using hi
      rw [ih, List.drop_eq_getElem_cons hi']
      simp [ByteArray.get!, hi]
  | case2 i before hi =>
      have hi' : bytes.data.toList.length ≤ i := by simpa using Nat.le_of_not_lt hi
      rw [List.drop_eq_nil_of_le hi', List.append_nil]

/-- A text is encoded character by character. -/
theorem encodeUtf8_eq (text : String) :
    encodeUtf8 text = text.toList.flatMap String.utf8EncodeChar := by
  have hbytes : text.toByteArray = (text.toList.flatMap String.utf8EncodeChar).toByteArray := by
    conv_lhs => rw [← String.ofList_toList (s := text)]
    rw [String.toByteArray_ofList, List.utf8Encode]
  rw [encodeUtf8, String.toUTF8_eq_toByteArray, hbytes, ByteArray.toList, toList_loop_eq,
    List.data_toByteArray]
  rfl

theorem encodeUtf8_injective {text text' : String} (h : encodeUtf8 text = encodeUtf8 text') :
    text = text' := by
  have hbytes : text.toByteArray.data.toList = text'.toByteArray.data.toList := by
    simpa [encodeUtf8, String.toUTF8_eq_toByteArray, ByteArray.toList, toList_loop_eq] using h
  exact String.toByteArray_inj.mp (ByteArray.ext (Array.toList_inj.mp hbytes))

/-! ## Sequences of bytes -/

/-- The bytes of a character by its number. -/
theorem utf8EncodeChar_ofNat {n : Nat} (h : n.isValidChar) :
    String.utf8EncodeChar (Char.ofNat n) =
      if n ≤ 0x7F then [UInt8.ofNat n]
      else if n ≤ 0x7FF then [UInt8.ofNat (n / 64 % 32 + 0xC0), UInt8.ofNat (n % 64 + 0x80)]
      else if n ≤ 0xFFFF then
        [UInt8.ofNat (n / 4096 % 16 + 0xE0), UInt8.ofNat (n / 64 % 64 + 0x80),
          UInt8.ofNat (n % 64 + 0x80)]
      else
        [UInt8.ofNat (n / 262144 % 8 + 0xF0), UInt8.ofNat (n / 4096 % 64 + 0x80),
          UInt8.ofNat (n / 64 % 64 + 0x80), UInt8.ofNat (n % 64 + 0x80)] := by
  have hn : (Char.ofNat n).val.toNat = n := by
    rw [Char.ofNat, dif_pos h]
    rfl
  rw [String.utf8EncodeChar, hn]

theorem ofNat_eq {n : Nat} {b : UInt8} (h : n = b.toNat) : UInt8.ofNat n = b := by
  rw [h, UInt8.ofNat_toNat]

variable {a b c d : UInt8}

theorem continuation_iff : isContinuation b ↔ 0x80 ≤ b.toNat ∧ b.toNat < 0xC0 := by
  simp [isContinuation, UInt8.lt_iff_toNat_lt, UInt8.le_iff_toNat_le]

/-- The second byte of three or four: with these bounds the sequence is not overlong, its character
is no half of a pair, and it is not behind the last one. -/
theorem second_iff : isSecond a b ↔ (0x80 ≤ b.toNat ∧ b.toNat < 0xC0)
    ∧ (a.toNat = 0xE0 → 0xA0 ≤ b.toNat) ∧ (a.toNat = 0xED → b.toNat < 0xA0)
    ∧ (a.toNat = 0xF0 → 0x90 ≤ b.toNat) ∧ (a.toNat = 0xF4 → b.toNat < 0x90) := by
  have heq (n : UInt8) : a = n ↔ a.toNat = n.toNat := UInt8.toNat_inj.symm
  rw [isSecond, Bool.and_eq_true, continuation_iff]
  refine and_congr_right fun _ => ?_
  simp only [heq, UInt8.lt_iff_toNat_lt, UInt8.le_iff_toNat_le, UInt8.reduceToNat]
  split
  · simp_all
  · split
    · simp_all
    · split
      · simp_all
      · split
        · simp_all
        · simp_all

theorem utf8EncodeChar_of_ascii (ha : a < 0x80) :
    String.utf8EncodeChar (Char.ofNat a.toNat) = [a] := by
  have ha' : a.toNat < 0x80 := UInt8.lt_iff_toNat_lt.mp ha
  rw [utf8EncodeChar_ofNat (.inl (by omega)), if_pos (by omega), UInt8.ofNat_toNat]

theorem utf8EncodeChar_of_two (ha : 0xC2 ≤ a.toNat ∧ a.toNat < 0xE0) (hb : isContinuation b) :
    String.utf8EncodeChar (joinBytes a 0xC0 [b]) = [a, b] := by
  rw [continuation_iff] at hb
  rw [joinBytes, List.foldl_cons, List.foldl_nil, utf8EncodeChar_ofNat (.inl (by omega)),
    if_neg (by omega), if_pos (by omega), ofNat_eq (b := a) (by omega), ofNat_eq (b := b) (by omega)]

theorem utf8EncodeChar_of_three (ha : 0xE0 ≤ a.toNat ∧ a.toNat < 0xF0) (hb : isSecond a b)
    (hc : isContinuation c) : String.utf8EncodeChar (joinBytes a 0xE0 [b, c]) = [a, b, c] := by
  rw [second_iff] at hb
  rw [continuation_iff] at hc
  simp only [joinBytes, List.foldl_cons, List.foldl_nil]
  rw [utf8EncodeChar_ofNat (by omega), if_neg (by omega), if_neg (by omega), if_pos (by omega),
    ofNat_eq (b := a) (by omega), ofNat_eq (b := b) (by omega), ofNat_eq (b := c) (by omega)]

theorem utf8EncodeChar_of_four (ha : 0xF0 ≤ a.toNat ∧ a.toNat < 0xF5) (hb : isSecond a b)
    (hc : isContinuation c) (hd : isContinuation d) :
    String.utf8EncodeChar (joinBytes a 0xF0 [b, c, d]) = [a, b, c, d] := by
  rw [second_iff] at hb
  rw [continuation_iff] at hc hd
  simp only [joinBytes, List.foldl_cons, List.foldl_nil]
  rw [utf8EncodeChar_ofNat (by omega), if_neg (by omega), if_neg (by omega), if_neg (by omega),
    ofNat_eq (b := a) (by omega), ofNat_eq (b := b) (by omega), ofNat_eq (b := c) (by omega),
    ofNat_eq (b := d) (by omega)]

/-! ## Decoding -/

/-- A character in front of what is decoded. -/
theorem flatMap_of_decoded {decoded : Except Utf8Error (List Char)} {x : Char} {first rest : List UInt8}
    {cs : List Char} (hx : String.utf8EncodeChar x = first)
    (ih : ∀ {more}, decoded = .ok more → more.flatMap String.utf8EncodeChar = rest)
    (h : (do return x :: (← decoded)) = .ok cs) :
    cs.flatMap String.utf8EncodeChar = first ++ rest := by
  obtain ⟨more, hmore, h⟩ := bind_eq_ok_iff.mp h
  cases h
  rw [List.flatMap_cons, hx, ih hmore]

/-- The first byte of a sequence of two or more. -/
theorem bounds_of_first (h : ¬(a < 0xC2 || 0xF5 ≤ a) = true) : 0xC2 ≤ a.toNat ∧ a.toNat < 0xF5 := by
  simpa [UInt8.lt_iff_toNat_lt, UInt8.le_iff_toNat_le] using h

theorem flatMap_of_decodeFrom {pos : Nat} {bytes : List UInt8} {cs : List Char}
    (h : decodeFrom pos bytes = .ok cs) : cs.flatMap String.utf8EncodeChar = bytes := by
  fun_induction decodeFrom pos bytes generalizing cs with
  | case1 => cases h; rfl
  | case2 pos a rest ha ih => exact flatMap_of_decoded (utf8EncodeChar_of_ascii ha) ih h
  | case5 pos a _ hfirst htwo b rest hb ih =>
      have ha := bounds_of_first hfirst
      exact flatMap_of_decoded (utf8EncodeChar_of_two ⟨ha.1, UInt8.lt_iff_toNat_lt.mp htwo⟩ hb) ih h
  | case11 pos a _ hfirst htwo b hb c rest hc hthree ih =>
      have ha : 0xE0 ≤ a.toNat := by simpa [UInt8.lt_iff_toNat_lt] using htwo
      exact flatMap_of_decoded (utf8EncodeChar_of_three ⟨ha, UInt8.lt_iff_toNat_lt.mp hthree⟩
        (by simpa using hb) (by simpa using hc)) ih h
  | case13 pos a _ hfirst htwo b hb c hc hthree d rest hd ih =>
      have ha : 0xF0 ≤ a.toNat := by simpa [UInt8.lt_iff_toNat_lt] using hthree
      exact flatMap_of_decoded (utf8EncodeChar_of_four ⟨ha, (bounds_of_first hfirst).2⟩
        (by simpa using hb) (by simpa using hc) hd) ih h
  | case3 | case4 | case6 | case7 | case8 | case9 | case10 | case12 | case14 => cases h

/-- The bytes that a text is read from are those of its encoding. -/
theorem encodeUtf8_of_decodeUtf8 {bytes : List UInt8} {text : String}
    (h : decodeUtf8 bytes = .ok text) : encodeUtf8 text = bytes := by
  unfold decodeUtf8 at h
  cases hdecode : decodeFrom 0 bytes with
  | error e =>
      rw [hdecode] at h
      cases h
  | ok cs =>
      rw [hdecode] at h
      cases h
      rw [encodeUtf8_eq, String.toList_ofList]
      exact flatMap_of_decodeFrom hdecode

end Stencil.Text

namespace Stencil

open Text

/-! ## Line ends -/

theorem unifyLineEnds_append {xs : List Char} (hxs : '\r' ∉ xs) (ys : List Char) :
    unifyLineEnds (xs ++ ys) = xs ++ unifyLineEnds ys := by
  induction xs with
  | nil => rfl
  | cons x xs ih =>
      rw [List.mem_cons, not_or] at hxs
      rw [List.cons_append, unifyLineEnds, ih hxs.2, List.cons_append]
      · exact fun _ h _ => hxs.1 h.symm
      · exact fun h => hxs.1 h.symm

theorem unifyLineEnds_of_not_mem {cs : List Char} (h : '\r' ∉ cs) : unifyLineEnds cs = cs := by
  have happend := unifyLineEnds_append h []
  rwa [List.append_nil, unifyLineEnds, List.append_nil] at happend

theorem not_mem_unifyLineEnds (cs : List Char) : '\r' ∉ unifyLineEnds cs := by
  fun_induction unifyLineEnds cs with
  | case1 => simp
  | case2 cs ih => simpa using ih
  | case3 cs _ ih => simpa using ih
  | case4 c cs _ hc ih => simpa using ⟨fun h => hc h.symm, ih⟩

/-- The line ends of a text are line feeds if it has no carriage return. -/
theorem unifyLineEnds_eq_self_iff {cs : List Char} : unifyLineEnds cs = cs ↔ '\r' ∉ cs :=
  ⟨fun h => h ▸ not_mem_unifyLineEnds cs, unifyLineEnds_of_not_mem⟩

/-- With its line ends as line feeds, a text has the bytes that it was read from just if it has no
carriage return. -/
theorem encodeUtf8_unifyLineEnds_iff {bytes : List UInt8} {text : String}
    (h : decodeUtf8 bytes = .ok text) :
    encodeUtf8 (String.ofList (unifyLineEnds text.toList)) = bytes ↔ '\r' ∉ text.toList := by
  rw [← encodeUtf8_of_decodeUtf8 h, ← unifyLineEnds_eq_self_iff]
  constructor
  · intro heq
    have htext := congrArg String.toList (encodeUtf8_injective heq)
    rwa [String.toList_ofList] at htext
  · intro heq
    rw [heq, String.ofList_toList]

/-! ## Clusters at line ends -/

theorem ite_ne {α : Type} {p : Prop} [Decidable p] {x y z : α} (hx : x ≠ z) (hy : y ≠ z) :
    (if p then x else y) ≠ z := by
  split
  · exact hx
  · exact hy

/-- A carriage return and a line feed each have a class of their own. -/
theorem breakClass_eq_iff {c e : Char} (he : e = '\r' ∨ e = '\n') :
    breakClass c = breakClass e ↔ c = e := by
  refine ⟨fun h => Decidable.byContradiction fun hne => absurd h ?_, fun h => h ▸ rfl⟩
  have hcode : c.toNat ≠ e.toNat := fun h => hne (Char.toNat_inj.mp h)
  -- all that is left of the conditions leads to another class
  rcases he with rfl | rfl
  · change BreakClass.ofCodePoint c.toNat ≠ .carriageReturn
    unfold BreakClass.ofCodePoint
    rw [if_neg (show ¬c.toNat = 0x0D from hcode)]
    repeat' apply ite_ne
    all_goals nofun
  · change BreakClass.ofCodePoint c.toNat ≠ .lineFeed
    unfold BreakClass.ofCodePoint
    rw [if_neg (show ¬c.toNat = 0x0A from hcode)]
    repeat' apply ite_ne
    all_goals nofun

/-- Behind a cluster that nothing continues, a text is cut as if it stood alone. -/
theorem clustersFrom_of_closed {t : Trail} (h : ∀ k, t.continues k = false) (cs : List Char) :
    clustersFrom t cs = ([], clusters cs) := by
  cases cs with
  | nil => rfl
  | cons c cs =>
      rw [clustersFrom]
      simp only [h, Bool.false_eq_true, if_false]
      rfl

theorem clusters_feed (cs : List Char) : clusters ('\n' :: cs) = ['\n'] :: clusters cs := by
  rw [clusters, clustersFrom_of_closed fun k => by cases k <;> rfl]

/-- A carriage return and the line feed that may follow it are one line end, and one cluster. -/
theorem clusters_return (cs : List Char) :
    ∃ lineEnd rest, clusters ('\r' :: cs) = lineEnd :: clusters rest
      ∧ unifyLineEnds ('\r' :: cs) = '\n' :: unifyLineEnds rest ∧ rest.length ≤ cs.length := by
  cases cs with
  | nil => exact ⟨['\r'], [], rfl, rfl, Nat.le_refl 0⟩
  | cons c cs =>
      by_cases hc : c = '\n'
      · subst hc
        refine ⟨['\r', '\n'], cs, ?_, by rw [unifyLineEnds], Nat.le_succ _⟩
        -- the line feed is in the cluster of the carriage return, and nothing continues it
        have hjoins : clustersFrom (.start (breakClass '\r')) ('\n' :: cs)
            = ('\n' :: (clustersFrom ((Trail.start .carriageReturn).push .lineFeed) cs).1,
              (clustersFrom ((Trail.start .carriageReturn).push .lineFeed) cs).2) := rfl
        rw [clusters, hjoins, clustersFrom_of_closed fun k => by cases k <;> rfl]
      · refine ⟨['\r'], c :: cs, ?_, ?_, Nat.le_refl _⟩
        · have hclass : breakClass c ≠ .lineFeed := fun h => hc ((breakClass_eq_iff (.inr rfl)).mp h)
          have hbreak : (Trail.start .carriageReturn).continues (breakClass c) = false := by
            cases hk : breakClass c with
            | lineFeed => exact absurd hk hclass
            | _ => rfl
          rw [clusters, show breakClass '\r' = .carriageReturn from rfl, clustersFrom]
          simp only [hbreak, Bool.false_eq_true, if_false]
          rfl
        · rw [unifyLineEnds]
          exact fun _ h => hc (List.cons.inj h).1

/-- A line end is never part of what is before it. -/
theorem clusters_append_lineEnd {xs : List Char} (hxs : '\r' ∉ xs) {y : Char}
    (hy : y = '\r' ∨ y = '\n') (ys : List Char) :
    clusters (xs ++ y :: ys) = clusters xs ++ clusters (y :: ys) := by
  rcases List.eq_nil_or_concat xs with rfl | ⟨front, x, hfront⟩
  · rfl
  · rw [List.concat_eq_append] at hfront
    have hx : x ≠ '\r' := fun h => hxs (by simp [hfront, h])
    have hclass : breakClass x ≠ .carriageReturn := fun h => hx ((breakClass_eq_iff (.inl rfl)).mp h)
    have hcontrol : (breakClass y).isControl := by
      rcases hy with rfl | rfl <;> rfl
    refine clusters_append_of_boundary ((boundary_iff_not_unbroken (by simp [hfront]) y ys).mpr ?_)
    rw [hfront, List.map_append, List.reverse_append]
    simp [BreakClass.unbroken, hclass, hcontrol]

/-- With other line ends a text has the same clusters but for the line ends. -/
theorem mem_clusters_unifyLineEnds {cs c : List Char} (h : c ∈ clusters (unifyLineEnds cs)) :
    c = ['\n'] ∨ c ∈ clusters cs := by
  induction hn : cs.length using Nat.strongRecOn generalizing cs with
  | ind n ih =>
      by_cases hreturn : '\r' ∈ cs
      · obtain ⟨xs, ys, rfl, hxs⟩ := List.eq_append_cons_of_mem hreturn
        obtain ⟨lineEnd, rest, hclusters, hunify, hrest⟩ := clusters_return ys
        -- nothing changes before the first carriage return, and less text is behind its line end
        rw [unifyLineEnds_append hxs, hunify, clusters_append_lineEnd hxs (.inr rfl),
          clusters_feed, List.mem_append, List.mem_cons] at h
        rw [clusters_append_lineEnd hxs (.inl rfl), hclusters, List.mem_append, List.mem_cons]
        rcases h with h | h | h
        · exact .inr (.inl h)
        · exact .inl h
        · have hlength : rest.length < n := by simp at hn; omega
          exact (ih _ hlength h rfl).imp_right fun h => .inr (.inr h)
      · rw [unifyLineEnds_of_not_mem hreturn] at h
        exact .inr h

end Stencil

import Mathlib.Computability.Language
import TonelessPinyin.Pattern.Ways

/-!
Nodes and the languages they recognise. What such a node does from a place depends only on the
texts that the rest of the subject begins with, so a search finds exactly the texts of the language.
-/
namespace TonelessPinyin.Pattern

open Text

/-- The ways of the node lead past those beginnings of the rest that are in the language. -/
def Recognises (r : Node) (L : Language Char) : Prop :=
  ∀ (t : Text) (p q : Place),
    q ∈ r.ways t.toArray p ↔ ∃ w ∈ L, w <+: t.drop p.pos ∧ q = p.move (p.pos + w.length)

/-- The texts of one character that the test accepts. -/
def accepted (test : CharTest) : Language Char := {w | ∃ c, test.accepts c = true ∧ w = [c]}

/-- The texts of characters that the test accepts. -/
def allAccepted (test : CharTest) : Language Char := {w | ∀ c ∈ w, test.accepts c = true}

theorem mem_accepted {test : CharTest} {w : Text} :
    w ∈ accepted test ↔ ∃ c, test.accepts c = true ∧ w = [c] := Iff.rfl

theorem mem_allAccepted {test : CharTest} {w : Text} :
    w ∈ allAccepted test ↔ ∀ c ∈ w, test.accepts c = true := Iff.rfl

@[simp] theorem Place.move_pos (p : Place) (n : Nat) : (p.move n).pos = n := rfl

@[simp] theorem Place.move_move (p : Place) (m n : Nat) : (p.move m).move n = p.move n := rfl

@[simp] theorem Place.move_self (p : Place) : p.move p.pos = p := rfl

theorem append_prefix_drop_iff (u v t : Text) (n : Nat) :
    u ++ v <+: t.drop n ↔ u <+: t.drop n ∧ v <+: t.drop (n + u.length) := by
  constructor
  · rintro ⟨rest, h⟩
    refine ⟨⟨v ++ rest, by rw [← h, List.append_assoc]⟩, ⟨rest, ?_⟩⟩
    rw [← List.drop_drop, ← h, List.append_assoc, List.drop_left]
  · rintro ⟨⟨rest, h⟩, hv⟩
    rw [← List.drop_drop, ← h, List.drop_left] at hv
    rw [← h]
    exact (List.prefix_append_right_inj u).2 hv

theorem span_of_eq_of_start (s : Span) {w t : Text} (hw : w <+: t.drop s.start)
    (hs : s.stop = s.start + w.length) : s.of t = w := by
  obtain ⟨rest, hr⟩ := hw
  rw [Span.of, slice, hs, List.drop_take, ← hr, Nat.add_sub_cancel_left, List.take_left]

theorem singleton_prefix_drop_iff (c : Char) (t : Text) (n : Nat) :
    [c] <+: t.drop n ↔ t[n]? = some c := by
  rw [List.singleton_prefix_iff_head?_eq_some, List.head?_drop]

namespace Recognises

theorem empty : Recognises .empty 1 := by
  intro t p q
  simp [Node.ways_empty]

theorem one (test : CharTest) : Recognises (.one test) (accepted test) := by
  intro t p q
  simp only [Node.ways_one, List.getElem?_toArray]
  constructor
  · intro h
    cases hc : t[p.pos]? with
    | none => simp [hc] at h
    | some c =>
      by_cases ha : test.accepts c
      · refine ⟨[c], ⟨c, ha, rfl⟩, (singleton_prefix_drop_iff c t p.pos).2 hc, ?_⟩
        simpa [hc, ha] using h
      · simp [hc, ha] at h
  · rintro ⟨w, ⟨c, ha, rfl⟩, hw, rfl⟩
    have hc := (singleton_prefix_drop_iff c t p.pos).1 hw
    simp [hc, ha]

theorem seq {a b : Node} {L M : Language Char} (ha : Recognises a L) (hb : Recognises b M) :
    Recognises (.seq a b) (L * M) := by
  intro t p q
  simp only [Node.ways_seq, List.mem_flatMap]
  constructor
  · rintro ⟨m, hm, hq⟩
    obtain ⟨u, hu, hut, rfl⟩ := (ha t p m).1 hm
    obtain ⟨v, hv, hvt, rfl⟩ := (hb t _ q).1 hq
    refine ⟨u ++ v, Language.append_mem_mul hu hv, ?_, ?_⟩
    · exact (append_prefix_drop_iff u v t p.pos).2 ⟨hut, hvt⟩
    · simp [Nat.add_assoc]
  · rintro ⟨w, hw, hwt, rfl⟩
    obtain ⟨u, hu, v, hv, rfl⟩ := Language.mem_mul.1 hw
    obtain ⟨hut, hvt⟩ := (append_prefix_drop_iff u v t p.pos).1 hwt
    refine ⟨p.move (p.pos + u.length), (ha t p _).2 ⟨u, hu, hut, rfl⟩, ?_⟩
    exact (hb t _ _).2 ⟨v, hv, hvt, by simp [Nat.add_assoc]⟩

theorem either {a b : Node} {L M : Language Char} (ha : Recognises a L) (hb : Recognises b M) :
    Recognises (.either a b) (L + M) := by
  intro t p q
  simp only [Node.ways_either, List.mem_append, ha t p q, hb t p q, Language.mem_add]
  constructor
  · rintro (⟨w, hw, h⟩ | ⟨w, hw, h⟩)
    · exact ⟨w, .inl hw, h⟩
    · exact ⟨w, .inr hw, h⟩
  · rintro ⟨w, hw | hw, h⟩
    · exact .inl ⟨w, hw, h⟩
    · exact .inr ⟨w, hw, h⟩

theorem concat {rs : List Node} {Ls : List (Language Char)} (h : List.Forall₂ Recognises rs Ls) :
    Recognises (.concat rs) Ls.prod := by
  induction h with
  | nil => exact empty
  | @cons r L rs Ls hr hrs ih =>
    cases hrs with
    | nil => simpa [Node.concat] using hr
    | cons _ _ => simpa only [Node.concat, List.prod_cons] using seq hr ih

theorem choice {r : Node} {L : Language Char} {rs : List Node} {Ls : List (Language Char)}
    (hr : Recognises r L) (h : List.Forall₂ Recognises rs Ls) :
    Recognises (.choice (r :: rs)) (L :: Ls).sum := by
  induction h generalizing r L with
  | nil => simpa [Node.choice] using hr
  | cons hs _ ih => simpa only [Node.choice, List.sum_cons] using either hr (ih hs)

/-- The fuel is enough, since every iteration takes a character. -/
theorem mem_waysMore (test : CharTest) (t : Text) (fuel : Nat) (p q : Place)
    (hf : t.length - p.pos < fuel) :
    q ∈ waysMore true (Node.ways t.toArray (.one test)) fuel none p ↔
      ∃ w ∈ allAccepted test, w <+: t.drop p.pos ∧ q = p.move (p.pos + w.length) := by
  induction fuel generalizing p with
  | zero => omega
  | succ fuel ih =>
    have onward (m : Place) (hm : m ∈ Node.ways t.toArray (.one test) p) :
        ∃ c, test.accepts c = true ∧ t[p.pos]? = some c ∧ m = p.move (p.pos + 1) := by
      obtain ⟨w, ⟨c, hc, rfl⟩, hw, rfl⟩ := (one test t p m).1 hm
      exact ⟨c, hc, (singleton_prefix_drop_iff c t p.pos).1 hw, rfl⟩
    simp only [waysMore, reduceCtorEq, if_false, if_true, List.mem_append, List.mem_flatMap,
      List.mem_singleton, Option.map_none]
    -- either one more character is taken and the loop goes on after it, or it ends here
    constructor
    · rintro (⟨m, hm, hq⟩ | rfl)
      · obtain ⟨c, hc, hct, rfl⟩ := onward m hm
        have hlt : p.pos < t.length := (List.getElem?_eq_some_iff.1 hct).1
        rw [if_neg (by simp), ih _ (by simp only [Place.move_pos]; omega)] at hq
        obtain ⟨w, hw, hwt, rfl⟩ := hq
        refine ⟨c :: w, List.forall_mem_cons.2 ⟨hc, hw⟩, ?_, ?_⟩
        · exact (append_prefix_drop_iff [c] w t p.pos).2
            ⟨(singleton_prefix_drop_iff c t p.pos).2 hct, hwt⟩
        · have hl : p.pos + 1 + w.length = p.pos + (c :: w).length := by
            simp only [List.length_cons]
            omega
          rw [Place.move_move, Place.move_pos, hl]
      · exact ⟨[], by simp [mem_allAccepted], List.nil_prefix, by simp⟩
    · rintro ⟨w, hw, hwt, rfl⟩
      cases w with
      | nil => exact .inr (by simp)
      | cons c w =>
        obtain ⟨hc, hws⟩ := List.forall_mem_cons.1 hw
        obtain ⟨hct, hwt⟩ := (append_prefix_drop_iff [c] w t p.pos).1 hwt
        have hct' := (singleton_prefix_drop_iff c t p.pos).1 hct
        have hlt : p.pos < t.length := (List.getElem?_eq_some_iff.1 hct').1
        refine .inl ⟨p.move (p.pos + 1), ?_, ?_⟩
        · exact (one test t p _).2 ⟨[c], ⟨c, hc, rfl⟩, hct, rfl⟩
        · have hl : p.pos + (c :: w).length = p.pos + 1 + w.length := by
            simp only [List.length_cons]
            omega
          rw [if_neg (by simp), ih _ (by simp only [Place.move_pos]; omega)]
          exact ⟨w, hws, hwt, by rw [Place.move_move, Place.move_pos, hl]⟩

theorem repeated (test : CharTest) :
    Recognises (.repeated 0 none true (.one test)) (allAccepted test) := by
  intro t p q
  simp only [Node.ways_repeated, waysTimes, List.flatMap_cons, List.flatMap_nil, List.append_nil,
    Option.map_none, List.size_toArray]
  exact mem_waysMore test t (t.length + 1) p q (by omega)

end Recognises

/-! ## Searching -/

namespace Node

theorem firstMatch_congr {r r' : Node} {subject subject' : Array Char}
    (h : ∀ i, r.matchAt subject i = r'.matchAt subject' i) (count start : Nat) :
    r.firstMatch subject count start = r'.firstMatch subject' count start := by
  induction count generalizing start with
  | zero => rfl
  | succ count ih => rw [firstMatch, firstMatch, h, ih]

theorem firstMatch_eq_none_iff (r : Node) (subject : Array Char) (count start : Nat) :
    r.firstMatch subject count start = none ↔
      ∀ i, start ≤ i → i < start + count → r.matchAt subject i = none := by
  induction count generalizing start with
  | zero =>
    simp only [firstMatch, true_iff]
    omega
  | succ count ih =>
    rw [firstMatch]
    cases hm : r.matchAt subject start with
    | some stop =>
      simp only [reduceCtorEq, false_iff]
      intro h
      simp [h start le_rfl (by omega)] at hm
    | none =>
      simp only [ih]
      constructor
      · intro h i hi hc
        rcases Nat.eq_or_lt_of_le hi with rfl | hlt
        · exact hm
        · exact h i hlt (by omega)
      · intro h i hi hc
        exact h i (by omega) (by omega)

theorem firstMatch_eq_some {r : Node} {subject : Array Char} {count start : Nat} {s : Span}
    (h : r.firstMatch subject count start = some s) :
    start ≤ s.start ∧ s.start < start + count ∧ r.matchAt subject s.start = some s.stop ∧
      ∀ i, start ≤ i → i < s.start → r.matchAt subject i = none := by
  induction count generalizing start with
  | zero => simp [firstMatch] at h
  | succ count ih =>
    rw [firstMatch] at h
    cases hm : r.matchAt subject start with
    | some stop =>
      obtain rfl : (⟨start, stop⟩ : Span) = s := by simpa [hm] using h
      exact ⟨le_rfl, by simp only; omega, hm, fun i hi hs => absurd hs (not_lt.2 hi)⟩
    | none =>
      simp only [hm] at h
      obtain ⟨hle, hlt, hs, hfirst⟩ := ih h
      refine ⟨by omega, by omega, hs, ?_⟩
      intro i hi his
      rcases Nat.eq_or_lt_of_le hi with rfl | hlt'
      · exact hm
      · exact hfirst i hlt' his

/-- A search through the whole text starts at its beginning and sees all of it. -/
theorem search_whole (r : Node) (t : Text) :
    r.search t 0 t.length = r.firstMatch t.toArray (t.length + 1) 0 := by
  simp [search]

end Node

namespace Recognises

variable {r : Node} {L : Language Char}

theorem matchAt_isSome_iff (h : Recognises r L) (t : Text) (n : Nat) :
    (r.matchAt t.toArray n).isSome ↔ ∃ w ∈ L, w <+: t.drop n := by
  rw [Node.matchAt_eq, Option.isSome_map, List.isSome_head?]
  constructor
  · intro hne
    obtain ⟨q, hq⟩ := List.exists_mem_of_ne_nil _ hne
    obtain ⟨w, hw, hwt, -⟩ := (h t _ q).1 hq
    exact ⟨w, hw, hwt⟩
  · rintro ⟨w, hw, hwt⟩
    exact List.ne_nil_of_mem ((h t ⟨n, []⟩ _).2 ⟨w, hw, hwt, rfl⟩)

theorem matchAt_eq_some (h : Recognises r L) {t : Text} {n stop : Nat}
    (hm : r.matchAt t.toArray n = some stop) :
    ∃ w ∈ L, w <+: t.drop n ∧ stop = n + w.length := by
  rw [Node.matchAt_eq, Option.map_eq_some_iff] at hm
  obtain ⟨q, hq, rfl⟩ := hm
  obtain ⟨w, hw, hwt, rfl⟩ := (h t _ q).1 (List.mem_of_mem_head? hq)
  exact ⟨w, hw, hwt, rfl⟩

theorem matchNonemptyAt_eq_some (h : Recognises r L) {t : Text} {n stop : Nat}
    (hm : r.matchNonemptyAt t.toArray n = some stop) :
    ∃ w ∈ L, w <+: t.drop n ∧ stop = n + w.length := by
  rw [Node.matchNonemptyAt, Node.run_eq_findSome?, Option.map_eq_some_iff] at hm
  obtain ⟨q, hq, rfl⟩ := hm
  obtain ⟨q', hq', hsame⟩ := List.exists_of_findSome?_eq_some hq
  obtain ⟨w, hw, hwt, rfl⟩ := (h t _ q').1 hq'
  split_ifs at hsame
  obtain rfl := Option.some.inj hsame
  exact ⟨w, hw, hwt, rfl⟩

/-- A search succeeds just if some stretch of the text is in the language. -/
theorem search_isSome_iff (h : Recognises r L) (t : Text) :
    (r.search t 0 t.length).isSome ↔ ∃ w ∈ L, w <:+: t := by
  rw [Node.search_whole, ← Option.ne_none_iff_isSome, Ne, Node.firstMatch_eq_none_iff]
  constructor
  · intro hsome
    by_contra! hnone
    apply hsome
    intro i _ _
    by_contra hi
    obtain ⟨w, hw, hwt⟩ := (h.matchAt_isSome_iff t i).1 (Option.ne_none_iff_isSome.1 hi)
    exact hnone w hw (hwt.isInfix.trans (List.drop_suffix i t).isInfix)
  · rintro ⟨w, hw, before, after, rfl⟩ hnone
    -- the stretch is found at the latest where it stands
    have hpre : w <+: (before ++ w ++ after).drop before.length := ⟨after, by simp⟩
    have hsome := (h.matchAt_isSome_iff (before ++ w ++ after) before.length).2 ⟨w, hw, hpre⟩
    rw [hnone before.length (Nat.zero_le _) (by simp only [List.length_append]; omega)] at hsome
    simp at hsome

theorem mem_spansFrom (h : Recognises r L) {t : Text} {count : Nat} {afterEmpty : Bool}
    {start : Nat} {s : Span} (hs : s ∈ r.spansFrom t.toArray count afterEmpty start) :
    ∃ w ∈ L, w <+: t.drop s.start ∧ s.stop = s.start + w.length := by
  induction count generalizing afterEmpty start with
  | zero => simp [Node.spansFrom] at hs
  | succ count ih =>
    rw [Node.spansFrom] at hs
    split at hs
    · next s' hnext =>
      rcases List.mem_cons.1 hs with rfl | hs
      · have first (count start : Nat) (hf : r.firstMatch t.toArray count start = some s) :
            ∃ w ∈ L, w <+: t.drop s.start ∧ s.stop = s.start + w.length :=
          h.matchAt_eq_some (Node.firstMatch_eq_some hf).2.2.1
        -- right after an empty match the same place may only have a longer one
        cases afterEmpty with
        | false => exact first _ _ hnext
        | true =>
          simp only [if_true] at hnext
          split at hnext
          · next stop hne =>
            obtain rfl := Option.some.inj hnext
            exact h.matchNonemptyAt_eq_some hne
          · exact first _ _ hnext
      · exact ih hs
    · simp at hs

/-- All matches that a text has are stretches of it that are in the language. -/
theorem mem_spans (h : Recognises r L) {t : Text} {s : Span} (hs : s ∈ r.spans t) :
    s.of t ∈ L := by
  obtain ⟨w, hw, hwt, hstop⟩ := h.mem_spansFrom hs
  rwa [span_of_eq_of_start s hwt hstop]

/-- A text of the language has a match. -/
theorem exists_mem_spans (h : Recognises r L) {t : Text} (ht : t ∈ L) : ∃ s, s ∈ r.spans t := by
  obtain ⟨s, hs⟩ := Option.isSome_iff_exists.1 ((h.search_isSome_iff t).2 ⟨t, ht, List.infix_rfl⟩)
  rw [Node.search_whole] at hs
  refine ⟨s, ?_⟩
  rw [Node.spans, Node.spansFrom]
  simp only [Bool.false_eq_true, if_false, List.size_toArray, Nat.sub_zero, hs]
  exact List.mem_cons_self

end Recognises

end TonelessPinyin.Pattern

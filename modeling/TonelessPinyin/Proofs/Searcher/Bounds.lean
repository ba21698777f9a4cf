import TonelessPinyin.Proofs.Pattern.Successive
import TonelessPinyin.Proofs.Session.Steps

/-!
Searchers stay in their text. A match ends in the text, not before its start, and the cursor goes to
one of its ends. A search that finds nothing leaves the last match alone, and the cursor too unless
that is to go to the bound.
-/
namespace TonelessPinyin

open Pattern

/-! ## Matches -/

/-- A stretch of the text, which may be empty. -/
structure Span.IsIn (s : Span) (t : Text) : Prop where
  start_le : s.start ≤ s.stop
  stop_le : s.stop ≤ t.length

namespace Pattern.Node

variable {r : Node} {t : Text} {s : Span}

theorem lastMatch_eq_none_iff (r : Node) (subject : Array Char) (count start : Nat) :
    r.lastMatch subject count start = none ↔
      ∀ i, start ≤ i → i < start + count → r.matchAt subject i = none := by
  induction count with
  | zero =>
    simp only [lastMatch, true_iff]
    omega
  | succ count ih =>
    rw [lastMatch]
    cases hm : r.matchAt subject (start + count) with
    | some stop =>
      simp only [reduceCtorEq, false_iff]
      intro h
      simp [h (start + count) (by omega) (by omega)] at hm
    | none =>
      simp only [ih]
      constructor
      · intro h i hi hlt
        rcases Nat.eq_or_lt_of_le (Nat.le_of_lt_succ hlt) with rfl | hbefore
        · exact hm
        · exact h i hi hbefore
      · intro h i hi hlt
        exact h i hi (by omega)

theorem lastMatch_eq_some {subject : Array Char} {count start : Nat}
    (h : r.lastMatch subject count start = some s) :
    start ≤ s.start ∧ s.start < start + count ∧ r.matchAt subject s.start = some s.stop ∧
      ∀ i, s.start < i → i < start + count → r.matchAt subject i = none := by
  induction count with
  | zero => cases h
  | succ count ih =>
    rw [lastMatch] at h
    cases hm : r.matchAt subject (start + count) with
    | some stop =>
      obtain rfl : (⟨start + count, stop⟩ : Span) = s := by simpa [hm] using h
      refine ⟨Nat.le_add_right _ _, Nat.lt_succ_self _, hm, ?_⟩
      intro i hi hlt
      simp only at hi
      omega
    | none =>
      simp only [hm] at h
      obtain ⟨hle, hlt, hmatch, hlast⟩ := ih h
      refine ⟨hle, by omega, hmatch, ?_⟩
      intro i hi hstop
      rcases Nat.eq_or_lt_of_le (Nat.le_of_lt_succ hstop) with rfl | hbefore
      · exact hm
      · exact hlast i hi hbefore

/-- A match in a beginning of the text is one of its stretches. -/
theorem isIn_of_matchAt {stop : Nat} (hstart : s.start ≤ (t.take stop).length)
    (h : r.matchAt (t.take stop).toArray s.start = some s.stop) : s.IsIn t := by
  obtain ⟨hle, hstop⟩ := matchAt_bounds hstart h
  refine ⟨hle, hstop.trans ?_⟩
  rw [List.size_toArray]
  exact List.length_take_le' stop t

theorem search_isIn {start stop : Nat} (h : r.search t start stop = some s) : s.IsIn t := by
  obtain ⟨hle, hlt, hmatch, -⟩ := firstMatch_eq_some h
  rw [List.size_toArray] at hlt
  exact isIn_of_matchAt (by omega) hmatch

end Pattern.Node

namespace Searcher

variable {r : Node} {t : Text} {span : Span}

theorem nthAfter_isIn {limit count start : Nat}
    (h : nthAfter r t limit count start = some span) : span.IsIn t := by
  induction count, start using nthAfter.induct r t limit with
  | case1 => cases h
  | case2 start => exact Node.search_isIn h
  | case3 count start hnone => simp [nthAfter, hnone] at h
  | case4 count start s hs ih =>
    rw [nthAfter, hs] at h
    exact ih h

theorem matchBefore_isIn {floor stop : Nat} (h : matchBefore r t floor stop = some span) :
    span.IsIn t := by
  rw [matchBefore] at h
  split_ifs at h with hlt
  obtain ⟨-, hstart, hmatch, -⟩ := Node.lastMatch_eq_some h
  refine Node.isIn_of_matchAt ?_ hmatch
  rw [List.length_take]
  omega

theorem nthBefore_isIn {floor count stop : Nat}
    (h : nthBefore r t floor count stop = some span) : span.IsIn t := by
  induction count, stop using nthBefore.induct r t floor with
  | case1 => cases h
  | case2 stop => exact matchBefore_isIn h
  | case3 count stop hnone => simp [nthBefore, hnone] at h
  | case4 count stop s hs ih =>
    rw [nthBefore, hs] at h
    exact ih h

/-! ## Searches -/

end Searcher

def Direction.reversed : Direction → Direction
  | forward => backward
  | backward => forward

/-- The way in which a search goes: with a negative count it is the other one. -/
def SearchArgs.heading (a : SearchArgs) (d : Direction) : Direction :=
  if a.count < 0 then d.reversed else d

namespace Searcher

/-- How far a search may go. -/
def border (s : Searcher) : Direction → Option Int → Nat
  | .forward => s.limit
  | .backward => s.floor

/-- The match that a search with the given count comes to. -/
def nthMatch (s : Searcher) (r : Node) (bound : Option Int) (count : Nat) : Direction → Option Span
  | .forward => nthAfter r s.text (s.limit bound) count s.point
  | .backward => nthBefore r s.text (s.floor bound) count s.point

theorem nthMatch_isIn {s : Searcher} {r : Node} {bound : Option Int} {count : Nat} {d : Direction}
    {span : Span} (h : s.nthMatch r bound count d = some span) : span.IsIn s.text := by
  cases d with
  | forward => exact nthAfter_isIn h
  | backward => exact nthBefore_isIn h

/-- Both ways of searching are the same but for the match that is looked for, where the cursor goes
after it, and how far the search may go. -/
theorem search_eq (s : Searcher) (d : Direction) (a : SearchArgs) :
    s.search d a =
      match prepare s.caseless a.pattern with
      | .error e => (.error e, s)
      | .ok r =>
        if a.count.natAbs = 0 then (.ok (some s.point), s)
        else
          match s.nthMatch r a.bound a.count.natAbs (a.heading d) with
          | some span => s.found span (landing (a.heading d) span)
          | none => s.fail a.pattern (s.border (a.heading d) a.bound) a.onFailure := by
  by_cases hneg : a.count < 0
  · have hheading : a.heading d = d.reversed := if_pos hneg
    unfold search
    rw [hheading, decide_eq_true hneg]
    cases d
    · rfl
    · rfl
  · have hheading : a.heading d = d := if_neg hneg
    unfold search
    rw [hheading, decide_eq_false hneg]
    cases d
    · rfl
    · rfl

theorem found_eq {s : Searcher} {span : Span} {n : Nat} (h : n ≤ s.text.length) :
    s.found span n = (.ok (some n), { s with matched := some span, point := n }) := by
  rw [found, setPoint, clamp_of_le h]

theorem landing_le {t : Text} {span : Span} (h : span.IsIn t) (d : Direction) :
    landing d span ≤ t.length := by
  cases d with
  | forward => exact h.stop_le
  | backward => exact h.start_le.trans h.stop_le

/-- The searcher after it has come to a match. -/
def atMatch (s : Searcher) (d : Direction) (span : Span) : Searcher :=
  { s with matched := some span, point := landing d span }

/-- A search that is asked for matches succeeds just if it comes to one. -/
theorem search_eq_ok_iff {s : Searcher} {pattern : Text} {r : Node}
    (hr : prepare s.caseless pattern = .ok r) (d : Direction) (bound : Option Int)
    (onFailure : OnFailure) {count : Nat} (hcount : 0 < count) {p : Nat} {after : Searcher} :
    s.search d ⟨pattern, bound, onFailure, count⟩ = (.ok (some p), after) ↔
      ∃ span, s.nthMatch r bound count d = some span ∧ p = landing d span ∧
        after = s.atMatch d span := by
  have hheading : SearchArgs.heading ⟨pattern, bound, onFailure, count⟩ d = d :=
    if_neg (by simp only; omega)
  rw [search_eq, hr, hheading]
  simp only [Int.natAbs_natCast, Nat.ne_of_gt hcount, if_false]
  cases hmatch : s.nthMatch r bound count d with
  | some span =>
    simp only [found_eq (landing_le (nthMatch_isIn hmatch) d), Option.some.injEq, exists_eq_left',
      Prod.mk.injEq, Except.ok.injEq]
    exact and_congr eq_comm eq_comm
  | none =>
    -- a failure has no point to give
    simp only [reduceCtorEq, false_and, exists_false, iff_false]
    cases onFailure <;> simp [fail]

/-- The cursor and the last match are in the text. -/
structure IsOver (t : Text) (s : Searcher) : Prop where
  text : s.text = t
  point_le : s.point ≤ t.length
  matched : ∀ span, s.matched = some span → span.IsIn t

/-- The searchers over a text that moves of the cursor and searches lead to. -/
inductive Reachable (t : Text) : Searcher → Prop
  | new (point : Int) (caseless : Bool) : Reachable t (.new t point caseless)
  | setPoint {s : Searcher} (n : Int) : Reachable t s → Reachable t (s.setPoint n)
  | search {s : Searcher} (d : Direction) (a : SearchArgs) :
      Reachable t s → Reachable t (s.search d a).2

variable {t : Text} {s : Searcher}

namespace IsOver

theorem new (t : Text) (point : Int) (caseless : Bool) : IsOver t (.new t point caseless) :=
  ⟨rfl, clamp_le_length t point, fun _ h => by cases h⟩

theorem setPoint (h : IsOver t s) (n : Int) : IsOver t (s.setPoint n) :=
  ⟨h.text, h.text ▸ clamp_le_length s.text n, h.matched⟩

theorem border_le (h : IsOver t s) (d : Direction) (bound : Option Int) :
    s.border d bound ≤ s.text.length := by
  obtain ⟨rfl, hpoint, -⟩ := h
  cases d <;> cases bound
  · exact le_rfl
  · exact max_le hpoint (clamp_le_length _ _)
  · exact Nat.zero_le _
  · exact (Nat.min_le_left _ _).trans hpoint

/-- No search turns back before its border. -/
theorem border_ahead (h : IsOver t s) (bound : Option Int) :
    s.point ≤ s.border .forward bound ∧ s.border .backward bound ≤ s.point := by
  obtain ⟨rfl, hpoint, -⟩ := h
  cases bound with
  | none => exact ⟨hpoint, Nat.zero_le _⟩
  | some bound => exact ⟨Nat.le_max_left _ _, Nat.min_le_left _ _⟩

/-- All that a search can do: it refuses the pattern or raises its failure, is asked for no match at
all, stays, goes to the bound, or finds a match. -/
theorem search_cases (h : IsOver t s) (d : Direction) (a : SearchArgs) :
    (∃ e, (prepare s.caseless a.pattern = .error e ∨
        a.onFailure = .raise ∧ e = .notFound a.pattern) ∧ s.search d a = (.error e, s)) ∨
      a.count = 0 ∧ s.search d a = (.ok (some s.point), s) ∨
      a.onFailure = .stay ∧ s.search d a = (.ok none, s) ∨
      a.onFailure = .goToBound ∧
        s.search d a = (.ok none, { s with point := s.border (a.heading d) a.bound }) ∨
      a.count ≠ 0 ∧ ∃ span, span.IsIn t ∧ s.search d a =
        (.ok (some (landing (a.heading d) span)),
          { s with matched := some span, point := landing (a.heading d) span }) := by
  rw [search_eq]
  cases prepare s.caseless a.pattern with
  | error e => exact .inl ⟨e, .inl rfl, rfl⟩
  | ok r =>
    by_cases hcount : a.count = 0
    · exact .inr (.inl ⟨hcount, by simp [hcount]⟩)
    · simp only [Int.natAbs_eq_zero, hcount, if_false]
      cases hmatch : s.nthMatch r a.bound a.count.natAbs (a.heading d) with
      | some span =>
        have hin := nthMatch_isIn hmatch
        simp only [found_eq (landing_le hin _)]
        exact .inr (.inr (.inr (.inr ⟨hcount, span, h.text ▸ hin, rfl⟩)))
      | none =>
        have hborder := clamp_of_le (h.border_le (a.heading d) a.bound)
        cases hfailure : a.onFailure with
        | raise => exact .inl ⟨_, .inr ⟨rfl, rfl⟩, rfl⟩
        | stay => exact .inr (.inr (.inl ⟨rfl, rfl⟩))
        | goToBound =>
          have hfail : s.fail a.pattern (s.border (a.heading d) a.bound) .goToBound =
              (.ok none, { s with point := s.border (a.heading d) a.bound }) := by
            rw [fail, Searcher.setPoint, hborder]
          exact .inr (.inr (.inr (.inl ⟨rfl, hfail⟩)))

theorem search (h : IsOver t s) (d : Direction) (a : SearchArgs) : IsOver t (s.search d a).2 := by
  obtain ⟨e, -, heq⟩ | ⟨-, heq⟩ | ⟨-, heq⟩ | ⟨-, heq⟩ | ⟨-, span, hin, heq⟩ := h.search_cases d a
  · rwa [heq]
  · rwa [heq]
  · rwa [heq]
  · rw [heq]
    exact ⟨h.text, h.text ▸ h.border_le _ _, h.matched⟩
  · rw [heq]
    refine ⟨h.text, landing_le hin _, ?_⟩
    rintro _ ⟨⟩
    exact hin

end IsOver

theorem Reachable.isOver (h : Reachable t s) : IsOver t s := by
  induction h with
  | new point caseless => exact .new t point caseless
  | setPoint n _ ih => exact ih.setPoint n
  | search d a _ ih => exact ih.search d a

/-- What the value of a search says of the searcher after it. An error, which is a refused pattern
or a failure that is to be raised, has changed nothing. Where nothing was found the cursor is in its
place, or at the bound if it was to go there. A match is the last one, and the cursor is at its end,
or at its start in a search backward. -/
def Accounts (s : Searcher) (d : Direction) (a : SearchArgs) :
    Except Error (Option Nat) → Searcher → Prop
  | .error e, after =>
    (prepare s.caseless a.pattern = .error e ∨ a.onFailure = .raise ∧ e = .notFound a.pattern) ∧
      after = s
  | .ok none, after =>
    a.onFailure = .stay ∧ after = s ∨
      a.onFailure = .goToBound ∧ after = { s with point := s.border (a.heading d) a.bound }
  | .ok (some n), after =>
    if a.count = 0 then n = s.point ∧ after = s
    else ∃ span, n = landing (a.heading d) span ∧
      after = { s with matched := some span, point := n }

/-- The cursor and the last match of a searcher are always in its text, and a search changes nothing
but what its value says. Its border is not behind the cursor. -/
theorem search_accounts (h : Reachable t s) (d : Direction) (a : SearchArgs) :
    s.IsOver t ∧ (s.search d a).2.IsOver t ∧
      (a.heading d = .forward → s.point ≤ s.border (a.heading d) a.bound) ∧
      (a.heading d = .backward → s.border (a.heading d) a.bound ≤ s.point) ∧
      s.Accounts d a (s.search d a).1 (s.search d a).2 := by
  have hover := h.isOver
  obtain ⟨hforward, hbackward⟩ := hover.border_ahead a.bound
  refine ⟨hover, hover.search d a, fun hd => hd ▸ hforward, fun hd => hd ▸ hbackward, ?_⟩
  obtain ⟨e, he, heq⟩ | ⟨hzero, heq⟩ | ⟨hstay, heq⟩ | ⟨hgo, heq⟩ | ⟨hcount, span, -, heq⟩ :=
    hover.search_cases d a
  · rw [heq]
    exact ⟨he, rfl⟩
  · rw [heq, Accounts, if_pos hzero]
    exact ⟨rfl, rfl⟩
  · rw [heq]
    exact .inl ⟨hstay, rfl⟩
  · rw [heq]
    exact .inr ⟨hgo, rfl⟩
  · rw [heq, Accounts, if_neg hcount]
    exact ⟨span, rfl, rfl⟩

/-- After two matches of `b` backward in `abab`, two more are not found forward before position 3:
the first of them is forgotten and the cursor goes there. -/
theorem search_accounts_abab :
    let s : Searcher := ⟨['a', 'b', 'a', 'b'], 1, true, some ⟨1, 2⟩⟩
    let a : SearchArgs := ⟨['b'], some 3, .goToBound, 2⟩
    Reachable ['a', 'b', 'a', 'b'] s ∧ (s.search .forward a).1 = .ok none ∧
      (s.search .forward a).2 = { s with point := 3 } := by
  intro s a
  have hs : Reachable ['a', 'b', 'a', 'b'] s := by
    have hback : ((Searcher.new ['a', 'b', 'a', 'b'] 9 true).search .backward
        ⟨['b'], none, .raise, 2⟩).2 = s := by decide
    rw [← hback]
    exact .search _ _ (.new 9 true)
  have hvalue : (s.search .forward a).1 = .ok none := by decide
  have haccounts : s.Accounts .forward a (.ok none) (s.search .forward a).2 := by
    rw [← hvalue]
    exact (search_accounts hs .forward a).2.2.2.2
  obtain ⟨hstay, -⟩ | ⟨-, hafter⟩ := haccounts
  · cases hstay
  · exact ⟨hs, hvalue, hafter⟩

end Searcher

end TonelessPinyin

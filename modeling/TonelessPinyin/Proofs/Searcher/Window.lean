import TonelessPinyin.Proofs.Searcher.Order

/-!
Searches in a window of the text. Forward a search comes to the match with the first start in the
window, backward to the one with the last start before its end. So both find something or neither
does, but for a match at the very end, and forward from where the backward match starts it is found
again.
-/
namespace TonelessPinyin

open Pattern

variable {r : Node} {t : Text} {a b : Nat} {span : Span}

/-! ## First and last matches -/

/-- In the text cut at `b` this is the match with the first start from `a` on. -/
structure Span.IsFirstIn (span : Span) (r : Node) (t : Text) (a b : Nat) : Prop where
  from_le : a ≤ span.start
  start_le : span.start ≤ b
  isMatch : r.matchAt (t.take b).toArray span.start = some span.stop
  none_before : ∀ i, a ≤ i → i < span.start → r.matchAt (t.take b).toArray i = none

/-- In the text cut at `b` this is the match with the last start from `a` on and before `b`. -/
structure Span.IsLastIn (span : Span) (r : Node) (t : Text) (a b : Nat) : Prop where
  from_le : a ≤ span.start
  start_lt : span.start < b
  isMatch : r.matchAt (t.take b).toArray span.start = some span.stop
  none_after : ∀ i, span.start < i → i < b → r.matchAt (t.take b).toArray i = none

namespace Searcher

theorem size_take_toArray (hb : b ≤ t.length) : (t.take b).toArray.size = b := by
  rw [List.size_toArray, List.length_take, Nat.min_eq_left hb]

theorem search_eq_firstMatch (hab : a ≤ b) (hb : b ≤ t.length) :
    r.search t a b = r.firstMatch (t.take b).toArray (b + 1 - a) a := by
  unfold Node.search
  dsimp only
  rw [Nat.min_eq_left (hab.trans hb), size_take_toArray hb]

theorem matchBefore_eq_lastMatch (hab : a ≤ b) (hb : b ≤ t.length) :
    matchBefore r t a b = r.lastMatch (t.take b).toArray (b - a) a := by
  unfold matchBefore
  split_ifs with hlt
  · dsimp only
    rw [Nat.min_eq_left (hab.trans hb), Nat.min_eq_left (by omega), Nat.sub_add_cancel (by omega)]
  · rw [Nat.sub_eq_zero_of_le (not_lt.1 hlt)]
    rfl

theorem isFirstIn_of_search (hab : a ≤ b) (hb : b ≤ t.length)
    (h : r.search t a b = some span) : span.IsFirstIn r t a b := by
  rw [search_eq_firstMatch hab hb] at h
  obtain ⟨hle, hlt, hmatch, hnone⟩ := Node.firstMatch_eq_some h
  exact ⟨hle, by omega, hmatch, hnone⟩

theorem isLastIn_of_matchBefore (hab : a ≤ b) (hb : b ≤ t.length)
    (h : matchBefore r t a b = some span) : span.IsLastIn r t a b := by
  rw [matchBefore_eq_lastMatch hab hb] at h
  obtain ⟨hle, hlt, hmatch, hnone⟩ := Node.lastMatch_eq_some h
  refine ⟨hle, by omega, hmatch, ?_⟩
  intro i hi hib
  exact hnone i hi (by omega)

/-- A search from the start of a match comes to this match. -/
theorem search_of_isMatch {i stop : Nat} (hi : i ≤ b) (hb : b ≤ t.length)
    (h : r.matchAt (t.take b).toArray i = some stop) : r.search t i b = some ⟨i, stop⟩ := by
  rw [search_eq_firstMatch hi hb, Nat.sub_add_comm hi, Node.firstMatch, h]

/-- The first match does not start after the last one. -/
theorem exists_first_of_last (hab : a ≤ b) (hb : b ≤ t.length) {last : Span}
    (hlast : last.IsLastIn r t a b) :
    ∃ first, r.search t a b = some first ∧ first.start ≤ last.start := by
  cases hsearch : r.search t a b with
  | none =>
    rw [search_eq_firstMatch hab hb, Node.firstMatch_eq_none_iff] at hsearch
    have hlt := hlast.start_lt
    have hnone := hsearch last.start hlast.from_le (by omega)
    rw [hlast.isMatch] at hnone
    cases hnone
  | some first =>
    refine ⟨first, rfl, ?_⟩
    by_contra hlt
    have hnone := (isFirstIn_of_search hab hb hsearch).none_before last.start hlast.from_le
      (not_le.1 hlt)
    rw [hlast.isMatch] at hnone
    cases hnone

/-- A search backward misses no match but one at the very end of the window. -/
theorem exists_last_of_first (hab : a ≤ b) (hb : b ≤ t.length) {first : Span}
    (hfirst : first.IsFirstIn r t a b) (hlt : first.start < b) :
    ∃ last, matchBefore r t a b = some last := by
  apply Option.ne_none_iff_exists'.1
  rw [matchBefore_eq_lastMatch hab hb, Ne, Node.lastMatch_eq_none_iff]
  intro hnone
  -- the first match is one that the search backward tries
  have hmatch := hnone first.start hfirst.from_le (by omega)
  rw [hfirst.isMatch] at hmatch
  cases hmatch

/-! ## Searchers -/

variable {s : Searcher} {pattern : Text}

/-- Backward from the end of a window, down to its start. -/
theorem backward_window_eq_ok_iff (hr : prepare s.caseless pattern = .ok r) (hab : a ≤ b)
    (hb : b ≤ s.text.length) (onFailure : OnFailure) {p : Nat} {after : Searcher} :
    (s.setPoint b).search .backward ⟨pattern, some a, onFailure, 1⟩ = (.ok (some p), after) ↔
      ∃ last, matchBefore r s.text a b = some last ∧ p = last.start ∧
        after = s.atMatch .backward last := by
  have hpoint : clamp s.text b = b := clamp_of_le hb
  have hfloor : (s.setPoint b).floor (some a) = a := by
    change min (clamp s.text b) a = a
    rw [hpoint, Nat.min_eq_right hab]
  have hmatch : (s.setPoint b).nthMatch r (some a) 1 .backward = matchBefore r s.text a b := by
    change matchBefore r s.text _ (clamp s.text b) = _
    rw [hfloor, hpoint]
  rw [← hmatch]
  exact search_eq_ok_iff (s := s.setPoint b) hr .backward (some a) onFailure Nat.one_pos

/-- Forward from the start of a window, up to its end. -/
theorem forward_window_eq_ok_iff (hr : prepare s.caseless pattern = .ok r) (hab : a ≤ b)
    (hb : b ≤ s.text.length) (onFailure : OnFailure) {p : Nat} {after : Searcher} :
    (s.setPoint a).search .forward ⟨pattern, some b, onFailure, 1⟩ = (.ok (some p), after) ↔
      ∃ first, r.search s.text a b = some first ∧ p = first.stop ∧
        after = s.atMatch .forward first := by
  have hpoint : clamp s.text a = a := clamp_of_le (hab.trans hb)
  have hlimit : (s.setPoint a).limit (some b) = b := by
    change max (clamp s.text a) (clamp s.text b) = b
    rw [hpoint, clamp_of_le hb, Nat.max_eq_right hab]
  have hmatch : (s.setPoint a).nthMatch r (some b) 1 .forward = r.search s.text a b := by
    change r.search s.text (clamp s.text a) _ = _
    rw [hlimit, hpoint]
  rw [← hmatch]
  exact search_eq_ok_iff (s := s.setPoint a) hr .forward (some b) onFailure Nat.one_pos

/-- Backward from the end of a window and forward from its start. The first search finds a match
just if the second finds one that starts before the end. Then the second match does not start after
the first one, which lies in the window, is the last to start before the end, and is found again
forward from where it starts. -/
theorem window_searches_agree (hr : prepare s.caseless pattern = .ok r) (hab : a ≤ b)
    (hb : b ≤ s.text.length) (onFailure onFailureAhead : OnFailure) :
    let back := (s.setPoint b).search .backward ⟨pattern, some a, onFailure, 1⟩
    let ahead (n : Nat) := (s.setPoint n).search .forward ⟨pattern, some b, onFailureAhead, 1⟩
    ((∃ p after, back = (.ok (some p), after)) ↔
      ∃ p after first, ahead a = (.ok (some p), after) ∧ after.matched = some first ∧
        first.start < b) ∧
    ∀ p q afterBack afterAhead, back = (.ok (some p), afterBack) →
      ahead a = (.ok (some q), afterAhead) →
      ∃ last first, afterBack.matched = some last ∧ afterAhead.matched = some first ∧
        first.start ≤ last.start ∧
        (a ≤ last.start ∧ last.start ≤ last.stop ∧ last.stop ≤ b) ∧
        (∀ i, last.start < i → i < b → r.matchAt (s.text.take b).toArray i = none) ∧
        ahead last.start =
          (.ok (some last.stop), { s with matched := some last, point := last.stop }) := by
  intro back ahead
  have hback {p : Nat} {after : Searcher} : back = (.ok (some p), after) ↔
      ∃ last, matchBefore r s.text a b = some last ∧ p = last.start ∧
        after = s.atMatch .backward last := backward_window_eq_ok_iff hr hab hb onFailure
  have hahead {i : Nat} (hi : i ≤ b) {p : Nat} {after : Searcher} :
      ahead i = (.ok (some p), after) ↔
        ∃ first, r.search s.text i b = some first ∧ p = first.stop ∧
          after = s.atMatch .forward first := forward_window_eq_ok_iff hr hi hb onFailureAhead
  refine ⟨⟨?_, ?_⟩, ?_⟩
  · rintro ⟨p, after, hfound⟩
    obtain ⟨last, hlast, -, -⟩ := hback.1 hfound
    have hisLast := isLastIn_of_matchBefore hab hb hlast
    obtain ⟨first, hfirst, hle⟩ := exists_first_of_last hab hb hisLast
    have hfoundAhead := (hahead hab).2 ⟨first, hfirst, rfl, rfl⟩
    exact ⟨_, _, first, hfoundAhead, rfl, hle.trans_lt hisLast.start_lt⟩
  · rintro ⟨p, after, first, hfound, hmatched, hlt⟩
    obtain ⟨found, hfirst, -, rfl⟩ := (hahead hab).1 hfound
    obtain rfl : found = first := Option.some.inj hmatched
    have hisFirst := isFirstIn_of_search hab hb hfirst
    obtain ⟨last, hlast⟩ := exists_last_of_first hab hb hisFirst hlt
    exact ⟨_, _, hback.2 ⟨last, hlast, rfl, rfl⟩⟩
  · intro p q afterBack afterAhead hfoundBack hfoundAhead
    obtain ⟨last, hlast, -, rfl⟩ := hback.1 hfoundBack
    obtain ⟨first, hfirst, -, rfl⟩ := (hahead hab).1 hfoundAhead
    have hisLast := isLastIn_of_matchBefore hab hb hlast
    obtain ⟨-, hstart, hstop, -⟩ := matchBefore_isAhead hb hlast
    obtain ⟨found, hfound, hle⟩ := exists_first_of_last hab hb hisLast
    obtain rfl : first = found := Option.some.inj (hfirst.symm.trans hfound)
    refine ⟨last, first, rfl, rfl, hle, ⟨hisLast.from_le, hstart, hstop⟩, hisLast.none_after, ?_⟩
    have hagain := search_of_isMatch hisLast.start_lt.le hb hisLast.isMatch
    exact (hahead hisLast.start_lt.le).2 ⟨last, hagain, rfl, rfl⟩

/-- Up to position 2 of `aab` the pattern `a+$` sees the end of the text there. Backward its last
match is the second `a`, which is found forward from 1 again; forward the first match is `aa`. -/
theorem window_searches_agree_aab :
    let s : Searcher := ⟨['a', 'a', 'b'], 3, true, none⟩
    let source : Text := ['a', '+', '$']
    let r := (prepare true source).toOption.getD .empty
    prepare s.caseless source = .ok r ∧ 0 ≤ 2 ∧ 2 ≤ s.text.length ∧
      (∃ p after first, (s.setPoint 0).search .forward ⟨source, some 2, .stay, 1⟩ =
        (.ok (some p), after) ∧ after.matched = some first ∧ first.start < 2) ∧
      (s.setPoint 1).search .forward ⟨source, some 2, .stay, 1⟩ =
        (.ok (some 2), { s with matched := some ⟨1, 2⟩, point := 2 }) := by
  intro s source r
  have hr : prepare s.caseless source = .ok r := by decide
  have hlength : 2 ≤ s.text.length := by decide
  have hback : (s.setPoint 2).search .backward ⟨source, some 0, .raise, 1⟩ =
      (.ok (some 1), s.atMatch .backward ⟨1, 2⟩) := by decide
  have hahead : (s.setPoint 0).search .forward ⟨source, some 2, .stay, 1⟩ =
      (.ok (some 2), s.atMatch .forward ⟨0, 2⟩) := by decide
  obtain ⟨hiff, hboth⟩ := window_searches_agree hr (Nat.zero_le 2) hlength .raise .stay
  refine ⟨hr, Nat.zero_le 2, hlength, hiff.1 ⟨1, _, hback⟩, ?_⟩
  obtain ⟨last, first, hlast, -, -, -, -, hagain⟩ := hboth 1 2 _ _ hback hahead
  obtain rfl : ⟨1, 2⟩ = last := Option.some.inj hlast
  exact hagain

end Searcher

end TonelessPinyin

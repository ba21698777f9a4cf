import TonelessPinyin.Proofs.Searcher.Order

/-!
Counted searches forward. The matches that are counted come one after another, each with a later
start, so there is room for so many only. But the search does not leave the end of the text: an
empty match there is counted over and over.
-/
namespace TonelessPinyin

open Pattern

/-! ## The end of the text -/

namespace Pattern.Node

variable {r : Node} {t : Text} {s : Span} {limit start : Nat}

/-- A search may go to the end of the text, where the pattern matches nothing. -/
def MatchesEmptyEnd (r : Node) (t : Text) (limit : Nat) : Prop :=
  limit = t.length ∧ r.matchAt t.toArray t.length = some t.length

instance (r : Node) (t : Text) (limit : Nat) : Decidable (r.MatchesEmptyEnd t limit) :=
  inferInstanceAs (Decidable (_ ∧ _))

/-- From the end of the text on, the empty match there is found. -/
theorem MatchesEmptyEnd.search_eq (h : r.MatchesEmptyEnd t limit) (hstart : t.length ≤ start) :
    r.search t start limit = some ⟨t.length, t.length⟩ := by
  obtain ⟨rfl, hmatch⟩ := h
  rw [← search_of_matchAt le_rfl hmatch]
  unfold search
  rw [Nat.min_eq_right hstart, Nat.min_self]

/-- Where the end of the text has an empty match, no search comes back without one. -/
theorem MatchesEmptyEnd.search_ne_none (h : r.MatchesEmptyEnd t limit) (start : Nat) :
    r.search t start limit ≠ none := by
  obtain ⟨rfl, hmatch⟩ := h
  unfold search
  rw [List.take_length, Ne, firstMatch_eq_none_iff]
  intro hnone
  have hend := hnone t.length (Nat.min_le_right _ _) (by rw [List.size_toArray]; omega)
  rw [hmatch] at hend
  cases hend

/-- An empty match is at the end of the text only if the search may go there. -/
theorem matchesEmptyEnd_of_search (hlimit : limit ≤ t.length) (hstart : start ≤ t.length)
    (h : r.search t start limit = some ⟨t.length, t.length⟩) : r.MatchesEmptyEnd t limit := by
  have hwithin : t.length ≤ limit := (Searcher.search_isAhead hstart h).2.2
  obtain rfl := Nat.le_antisymm hlimit hwithin
  exact ⟨rfl, (search_bounds hstart h).2.2.2⟩

end Pattern.Node

namespace Searcher

variable {r : Node} {t : Text} {limit start : Nat}

theorem nthAfter_of_none (h : r.search t start limit = none) (n : Nat) :
    nthAfter r t limit (n + 1) start = none := by
  cases n with
  | zero => exact h
  | succ n => rw [nthAfter, h]

theorem nthAfter_of_some {s : Span} (h : r.search t start limit = some s) (n : Nat) :
    nthAfter r t limit (n + 2) start = nthAfter r t limit (n + 1) (s.onward .forward) := by
  rw [nthAfter, h]
  rfl

/-- At the end of the text the count does not get on. -/
theorem nthAfter_of_matchesEmptyEnd (h : r.MatchesEmptyEnd t limit) (hstart : t.length ≤ start)
    (n : Nat) : nthAfter r t limit (n + 1) start = some ⟨t.length, t.length⟩ := by
  induction n generalizing start with
  | zero => exact h.search_eq hstart
  | succ n ih =>
    rw [nthAfter_of_some (h.search_eq hstart)]
    exact ih (Span.stop_le_onward ⟨t.length, t.length⟩)

/-- The matches that are counted from a position on. Past the last of them there is none, or the
empty match at the end of the text again. -/
theorem exists_inOrder (r : Node) (hlimit : limit ≤ t.length) (hstart : start ≤ t.length) :
    ∃ spans, InOrder limit .forward start spans ∧ ∀ n, nthAfter r t limit (n + 1) start =
      spans[n]?.or (if r.MatchesEmptyEnd t limit then some ⟨t.length, t.length⟩ else none) := by
  induction hroom : Direction.forward.room limit start using Nat.strong_induction_on
    generalizing start with
  | _ room ih =>
    cases hsearch : r.search t start limit with
    | none =>
      have hend : ¬r.MatchesEmptyEnd t limit := fun h => h.search_ne_none start hsearch
      refine ⟨[], trivial, fun n => ?_⟩
      rw [nthAfter_of_none hsearch, if_neg hend]
      rfl
    | some s =>
      have hahead := search_isAhead hstart hsearch
      by_cases hlast : s = ⟨t.length, t.length⟩
      · -- from here on this match is found again and again
        subst hlast
        have hend := Node.matchesEmptyEnd_of_search hlimit hstart hsearch
        refine ⟨[⟨t.length, t.length⟩], ⟨hahead, trivial⟩, fun n => ?_⟩
        cases n with
        | zero => exact hsearch
        | succ n =>
          rw [nthAfter_of_some hsearch, if_pos hend]
          exact nthAfter_of_matchesEmptyEnd hend (Span.stop_le_onward ⟨t.length, t.length⟩) n
      · -- any other match leaves the search within the text
        have hinside : s.onward .forward ≤ t.length :=
          Span.onward_le hahead.start_le_stop (hahead.2.2.trans hlimit) hlast
        obtain ⟨rest, hrest, hnth⟩ := ih _ (hroom ▸ hahead.room_lt) hinside rfl
        refine ⟨s :: rest, ⟨hahead, hrest⟩, fun n => ?_⟩
        cases n with
        | zero => exact hsearch
        | succ n => rw [nthAfter_of_some hsearch, hnth, List.getElem?_cons_succ]

/-- What a search forward with a count comes to. The matches that are counted lie between the cursor
and the limit, each with a later start, so there are no more of them than positions, and the count
picks one. A greater count finds nothing, except where the search may go to the end of the text and
the pattern matches nothing there: then every greater count finds this empty match again. -/
theorem forward_counts {s : Searcher} {pattern : Text} (hpoint : s.point ≤ s.text.length)
    (hr : prepare s.caseless pattern = .ok r) (bound : Option Int) (onFailure : OnFailure) :
    ∃ spans : List Span,
      (∀ a ∈ spans, s.point ≤ a.start ∧ a.start ≤ a.stop ∧ a.stop ≤ s.limit bound) ∧
      spans.Pairwise (fun a b => a.start < b.start) ∧
      spans.length ≤ s.limit bound - s.point + 1 ∧
      ∀ n : Nat, s.search .forward ⟨pattern, bound, onFailure, n + 1⟩ =
        match spans[n]?.or (if r.MatchesEmptyEnd s.text (s.limit bound)
          then some ⟨s.text.length, s.text.length⟩ else none) with
        | some span => (.ok (some span.stop), { s with matched := some span, point := span.stop })
        | none => s.fail pattern (s.limit bound) onFailure := by
  have hover : IsOver s.text { s with matched := none } :=
    ⟨rfl, hpoint, fun _ h => by cases h⟩
  have hlimit : s.limit bound ≤ s.text.length := hover.border_le .forward bound
  obtain ⟨spans, hspans, hnth⟩ := exists_inOrder r hlimit hpoint
  refine ⟨spans, hspans.isAhead, hspans.forward_pairwise.imp fun h => h.1, ?_, fun n => ?_⟩
  · have hahead : s.point ≤ s.limit bound := (hover.border_ahead bound).1
    have hlength : spans.length ≤ s.limit bound + 1 - s.point := hspans.length_le
    omega
  · have hheading : SearchArgs.heading ⟨pattern, bound, onFailure, n + 1⟩ .forward = .forward :=
      if_neg (by simp only; omega)
    have hcount : ((n : Int) + 1).natAbs = n + 1 := by omega
    rw [search_eq, hr, hheading, ← hnth]
    simp only [hcount, Nat.succ_ne_zero, if_false]
    cases hmatch : nthAfter r s.text (s.limit bound) (n + 1) s.point with
    | none =>
      simp only [nthMatch, hmatch]
      rfl
    | some span =>
      simp only [nthMatch, hmatch]
      exact found_eq (landing_le (nthAfter_isIn hmatch) .forward)

/-- In `ab` the pattern `x*` has an empty match at each of the three positions, and a count of nine
comes to the last of them. Up to position 1 it has two, and a count of three fails. -/
theorem forward_counts_ab :
    let s : Searcher := ⟨['a', 'b'], 0, true, none⟩
    let r := (prepare true ['x', '*']).toOption.getD .empty
    s.point ≤ s.text.length ∧ prepare s.caseless ['x', '*'] = .ok r ∧
      s.search .forward ⟨['x', '*'], none, .raise, 9⟩ =
        (.ok (some 2), { s with matched := some ⟨2, 2⟩, point := 2 }) ∧
      s.search .forward ⟨['x', '*'], some 1, .raise, 3⟩ = (.error (.notFound ['x', '*']), s) := by
  intro s r
  have hpoint : s.point ≤ s.text.length := by decide
  have hr : prepare s.caseless ['x', '*'] = .ok r := by decide
  have hend : r.MatchesEmptyEnd s.text (s.limit none) := by decide
  have hbounded : ¬r.MatchesEmptyEnd s.text (s.limit (some 1)) := by decide
  refine ⟨hpoint, hr, ?_, ?_⟩
  · obtain ⟨spans, -, -, hlength, hsearch⟩ := forward_counts hpoint hr none .raise
    have hpast : spans[8]? = none := List.getElem?_eq_none (hlength.trans (by decide))
    have hcounted := hsearch 8
    rw [hpast, if_pos hend] at hcounted
    exact hcounted
  · obtain ⟨spans, -, -, hlength, hsearch⟩ := forward_counts hpoint hr (some 1) .raise
    have hpast : spans[2]? = none := List.getElem?_eq_none (hlength.trans (by decide))
    have hcounted := hsearch 2
    rw [hpast, if_neg hbounded] at hcounted
    exact hcounted

end Searcher

end TonelessPinyin

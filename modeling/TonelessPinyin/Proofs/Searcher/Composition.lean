import TonelessPinyin.Proofs.Searcher.Order

/-!
Counted searches compose: a count may be searched for in two parts, the second from where the first
has led. Forward this holds for patterns without empty matches, as an empty match holds up the
search but not the cursor.
-/
namespace TonelessPinyin

open Pattern

/-- At no position does the pattern match nothing, wherever the text is cut. -/
def Pattern.Node.NeverEmptyIn (r : Node) (t : Text) : Prop :=
  ∀ stop ≤ t.length, r.NeverEmpty (t.take stop)

instance (r : Node) (t : Text) : Decidable (r.NeverEmptyIn t) :=
  inferInstanceAs (Decidable (∀ stop ≤ t.length, r.NeverEmpty (t.take stop)))

namespace Searcher

variable {r : Node} {t : Text} {s : Searcher} {border n : Nat} {d : Direction} {span : Span}

/-! ## Counting from a position -/

/-- The last of `count` matches from `n` on, in a direction and up to a border. -/
def nthFrom (r : Node) (t : Text) (border count n : Nat) : Direction → Option Span
  | .forward => nthAfter r t border count n
  | .backward => nthBefore r t border count n

theorem nthMatch_eq_nthFrom (s : Searcher) (r : Node) (bound : Option Int) (count : Nat)
    (d : Direction) :
    s.nthMatch r bound count d = nthFrom r s.text (s.border d bound) count s.point d := by
  cases d <;> rfl

theorem nthFrom_succ (r : Node) (t : Text) (border count n : Nat) (d : Direction) :
    nthFrom r t border (count + 2) n d =
      (nthFrom r t border 1 n d).bind fun s =>
        nthFrom r t border (count + 1) (s.onward d) d := by
  cases d with
  | forward =>
    change nthAfter r t border (count + 2) n = (r.search t n border).bind _
    rw [nthAfter]
    cases r.search t n border <;> rfl
  | backward =>
    change nthBefore r t border (count + 2) n = (matchBefore r t border n).bind _
    rw [nthBefore]
    cases matchBefore r t border n <;> rfl

/-- Up to one border the matches may be counted in two parts. -/
theorem nthFrom_add (r : Node) (t : Text) (border : Nat) (i j n : Nat) (d : Direction) :
    nthFrom r t border (i + 1 + (j + 1)) n d =
      (nthFrom r t border (i + 1) n d).bind fun s =>
        nthFrom r t border (j + 1) (s.onward d) d := by
  -- one match after the other moves from the whole count to the first part
  induction i generalizing n with
  | zero =>
    rw [Nat.zero_add, Nat.add_comm 1]
    exact nthFrom_succ r t border j n d
  | succ i ih =>
    rw [show i + 1 + 1 + (j + 1) = i + j + 1 + 2 by omega, nthFrom_succ, nthFrom_succ]
    rw [Option.bind_assoc]
    congr 1
    funext s
    rw [← ih, show i + 1 + (j + 1) = i + j + 1 + 1 by omega]

/-! ## Where the first part leads -/

theorem search_start_ne_stop (hempty : r.NeverEmptyIn t) (hborder : border ≤ t.length)
    (hn : n ≤ t.length) (h : r.search t n border = some span) : span.start ≠ span.stop := by
  unfold Node.search at h
  rw [Nat.min_eq_left hn] at h
  obtain ⟨hle, hlt, hmatch, -⟩ := Node.firstMatch_eq_some h
  have hstart : span.start ≤ (t.take border).length := by
    rw [List.size_toArray] at hlt
    omega
  intro heq
  apply hempty border hborder span.start hstart
  rw [hmatch, heq]

/-- A match that the next search can go on from: it is ahead, and the cursor after it is where the
search goes on. -/
def LeadsOn (border n : Nat) (d : Direction) (span : Span) : Prop :=
  span.IsAhead border n d ∧ landing d span = span.onward d

theorem leadsOn_of_nthFrom_one (hempty : d = .forward → r.NeverEmptyIn t)
    (hborder : border ≤ t.length) (hn : n ≤ t.length)
    (h : nthFrom r t border 1 n d = some span) : LeadsOn border n d span := by
  cases d with
  | forward =>
    have hahead := search_isAhead hn h
    have hne := search_start_ne_stop (hempty rfl) hborder hn h
    refine ⟨hahead, ?_⟩
    unfold landing Span.onward
    dsimp only
    rw [if_pos (lt_of_le_of_ne hahead.start_le_stop hne)]
  | backward => exact ⟨matchBefore_isAhead hn h, rfl⟩

theorem leadsOn_of_nthFrom (hempty : d = .forward → r.NeverEmptyIn t)
    (hborder : border ≤ t.length) (hn : n ≤ t.length) {i : Nat}
    (h : nthFrom r t border (i + 1) n d = some span) : LeadsOn border n d span := by
  induction i generalizing n with
  | zero => exact leadsOn_of_nthFrom_one hempty hborder hn h
  | succ i ih =>
    rw [nthFrom_succ, Option.bind_eq_some_iff] at h
    obtain ⟨first, hfirst, hrest⟩ := h
    obtain ⟨hahead, honward⟩ := leadsOn_of_nthFrom_one hempty hborder hn hfirst
    have hin : first.onward d ≤ t.length := by
      rw [← honward]
      cases d with
      | forward => exact hahead.2.2.trans hborder
      | backward => exact hahead.2.2.2.le.trans hn
    obtain ⟨hrestAhead, hrestOnward⟩ := ih hin hrest
    exact ⟨hahead.of_onward hrestAhead, hrestOnward⟩

/-- From where a match leads, the same bound gives the same border: a bound behind the cursor leaves
no room for a match. -/
theorem border_atMatch {bound : Option Int} (h : LeadsOn (s.border d bound) s.point d span) :
    (s.atMatch d span).border d bound = s.border d bound := by
  obtain ⟨hahead, honward⟩ := h
  cases bound with
  | none => cases d <;> rfl
  | some bound =>
    cases d with
    | forward =>
      obtain ⟨hle, hstart, hstop⟩ := hahead
      have hlt : span.start < span.stop := by
        have hpast := Span.start_lt_onward hstart
        rwa [← honward] at hpast
      change span.stop ≤ max s.point (clamp s.text bound) at hstop
      change max span.stop (clamp s.text bound) = max s.point (clamp s.text bound)
      omega
    | backward =>
      obtain ⟨hborder, -, -, hlt⟩ := hahead
      change min s.point bound.toNat ≤ span.start at hborder
      change min span.start bound.toNat = min s.point bound.toNat
      omega

/-- A search from where a match leads counts on from it, up to the border of the search before. -/
theorem nthMatch_atMatch {bound : Option Int} (h : LeadsOn (s.border d bound) s.point d span)
    (count : Nat) :
    (s.atMatch d span).nthMatch r bound count d =
      nthFrom r s.text (s.border d bound) count (span.onward d) d := by
  rw [nthMatch_eq_nthFrom, border_atMatch h, ← h.2]
  rfl

/-- So the matches of two searches are those of one search with both counts. -/
theorem nthMatch_add (hpoint : s.point ≤ s.text.length)
    (hempty : d = .forward → r.NeverEmptyIn s.text) (bound : Option Int) (i j : Nat) :
    s.nthMatch r bound (i + 1 + (j + 1)) d =
      (s.nthMatch r bound (i + 1) d).bind fun first =>
        (s.atMatch d first).nthMatch r bound (j + 1) d := by
  have hover : IsOver s.text { s with matched := none } := ⟨rfl, hpoint, fun _ h => by cases h⟩
  have hborder : s.border d bound ≤ s.text.length := hover.border_le d bound
  rw [nthMatch_eq_nthFrom, nthMatch_eq_nthFrom, nthFrom_add]
  apply Option.bind_congr
  intro first hfirst
  have hleads := leadsOn_of_nthFrom hempty hborder hpoint hfirst
  exact (nthMatch_atMatch hleads (j + 1)).symm

/-! ## Searches -/

/-- A search with the count `m + n` comes to a match just if one with the count `m` does and then,
from where that has led and with the same bound, one with the count `n`. Both ways end in the same
state. Forward the pattern must match nothing nowhere. -/
theorem search_add {pattern : Text} (hpoint : s.point ≤ s.text.length)
    (hr : prepare s.caseless pattern = .ok r) (hempty : d = .forward → r.NeverEmptyIn s.text)
    {m n : Nat} (hm : 0 < m) (hn : 0 < n) (bound : Option Int)
    (onFailure onFirstFailure onSecondFailure : OnFailure) (p : Nat) (after : Searcher) :
    s.search d ⟨pattern, bound, onFailure, m + n⟩ = (.ok (some p), after) ↔
      ∃ q between,
        s.search d ⟨pattern, bound, onFirstFailure, m⟩ = (.ok (some q), between) ∧
          between.search d ⟨pattern, bound, onSecondFailure, n⟩ = (.ok (some p), after) := by
  obtain ⟨i, rfl⟩ := Nat.exists_eq_add_one_of_ne_zero hm.ne'
  obtain ⟨j, rfl⟩ := Nat.exists_eq_add_one_of_ne_zero hn.ne'
  have hsecond (first : Span) :
      (s.atMatch d first).search d ⟨pattern, bound, onSecondFailure, (j + 1 : Nat)⟩ =
          (.ok (some p), after) ↔
        ∃ span, (s.atMatch d first).nthMatch r bound (j + 1) d = some span ∧
          p = landing d span ∧ after = s.atMatch d span :=
    search_eq_ok_iff (s := s.atMatch d first) hr d bound onSecondFailure hn
  rw [← Int.natCast_add, search_eq_ok_iff hr d bound onFailure (Nat.add_pos_left hm _),
    nthMatch_add hpoint hempty bound i j]
  simp only [search_eq_ok_iff hr d bound onFirstFailure hm, Option.bind_eq_some_iff]
  constructor
  · rintro ⟨span, ⟨first, hfirst, hspan⟩, hp, hafter⟩
    refine ⟨landing d first, s.atMatch d first, ⟨first, hfirst, rfl, rfl⟩, ?_⟩
    exact (hsecond first).2 ⟨span, hspan, hp, hafter⟩
  · rintro ⟨_, _, ⟨first, hfirst, rfl, rfl⟩, hrest⟩
    obtain ⟨span, hspan, hp, hafter⟩ := (hsecond first).1 hrest
    exact ⟨span, ⟨first, hfirst, hspan⟩, hp, hafter⟩

/-- The third `b` of `ababab` is the second after the first. Backward the empty matches of `x*` are
counted in two parts as well, down to the bound. -/
theorem search_add_ababab :
    let s : Searcher := ⟨['a', 'b', 'a', 'b', 'a', 'b'], 0, true, none⟩
    let b := (prepare true ['b']).toOption.getD .empty
    let x := (prepare true ['x', '*']).toOption.getD .empty
    (prepare true ['b'] = .ok b ∧ b.NeverEmptyIn s.text ∧
      ∃ q between, s.search .forward ⟨['b'], some 6, .raise, 1⟩ = (.ok (some q), between) ∧
        between.search .forward ⟨['b'], some 6, .raise, 2⟩ =
          (.ok (some 6), s.atMatch .forward ⟨5, 6⟩)) ∧
    prepare true ['x', '*'] = .ok x ∧
      ∃ q between,
        (s.setPoint 4).search .backward ⟨['x', '*'], some 1, .raise, 2⟩ = (.ok (some q), between) ∧
          between.search .backward ⟨['x', '*'], some 1, .raise, 1⟩ =
            (.ok (some 1), s.atMatch .backward ⟨1, 1⟩) := by
  intro s b x
  have hb : prepare true ['b'] = .ok b := by decide
  have hx : prepare true ['x', '*'] = .ok x := by decide
  have hempty : b.NeverEmptyIn s.text := by decide
  refine ⟨⟨hb, hempty, ?_⟩, hx, ?_⟩
  · apply (search_add (by decide) hb (fun _ => hempty) Nat.one_pos Nat.two_pos (some 6)
      .raise .raise .raise 6 _).1
    decide
  · apply (search_add (by decide) hx (by decide) Nat.two_pos Nat.one_pos (some 1)
      .raise .raise .raise 1 _).1
    decide

end Searcher

end TonelessPinyin

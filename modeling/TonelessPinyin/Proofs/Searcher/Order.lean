import TonelessPinyin.Proofs.Searcher.Bounds

/-!
Matches in the order in which repeated searches come to them. Each match is ahead of where the one
before it lets the search go on, and brings it nearer to its border, so there is room for so many
only.
-/
namespace TonelessPinyin

open Pattern

/-- Where a search goes on after a match. Forward an empty match takes up its place like a
character. -/
def Span.onward (s : Span) : Direction → Nat
  | .forward => if s.start < s.stop then s.stop else s.stop + 1
  | .backward => s.start

/-- A stretch that a search from `n` can find, before it comes to its border. -/
def Span.IsAhead (s : Span) (border n : Nat) : Direction → Prop
  | .forward => n ≤ s.start ∧ s.start ≤ s.stop ∧ s.stop ≤ border
  | .backward => border ≤ s.start ∧ s.start ≤ s.stop ∧ s.stop ≤ n ∧ s.start < n

/-- How many stretches can be found at most from `n` on, as each has a start of its own. -/
def Direction.room (border n : Nat) : Direction → Nat
  | .forward => border + 1 - n
  | .backward => n - border

namespace Span

variable {s s' : Span} {border n : Nat} {d : Direction}

theorem start_lt_onward (h : s.start ≤ s.stop) : s.start < s.onward .forward := by
  unfold onward
  dsimp only
  split_ifs <;> omega

theorem stop_le_onward (s : Span) : s.stop ≤ s.onward .forward := by
  unfold onward
  dsimp only
  split_ifs <;> omega

/-- A search forward leaves the text only after the empty match at its end. -/
theorem onward_le (hle : s.start ≤ s.stop) (hstop : s.stop ≤ n) (hne : s ≠ ⟨n, n⟩) :
    s.onward .forward ≤ n := by
  obtain ⟨start, stop⟩ := s
  have hdiffers : ¬(start = n ∧ stop = n) := by
    rintro ⟨rfl, rfl⟩
    exact hne rfl
  unfold onward
  dsimp only at *
  split_ifs <;> omega

namespace IsAhead

theorem start_le_stop (h : s.IsAhead border n d) : s.start ≤ s.stop := by
  cases d with
  | forward => exact h.2.1
  | backward => exact h.2.1

theorem room_lt (h : s.IsAhead border n d) :
    d.room border (s.onward d) < d.room border n := by
  cases d with
  | forward =>
    obtain ⟨hle, hstart, hstop⟩ := h
    have honward := start_lt_onward hstart
    unfold Direction.room
    dsimp only
    omega
  | backward =>
    obtain ⟨hborder, -, -, hlt⟩ := h
    unfold Direction.room onward
    dsimp only
    omega

/-- What is ahead after a match was so before it. -/
theorem of_onward (h : s.IsAhead border n d) (h' : s'.IsAhead border (s.onward d) d) :
    s'.IsAhead border n d := by
  cases d with
  | forward =>
    obtain ⟨hle, hstart, -⟩ := h
    have honward := start_lt_onward hstart
    exact ⟨by have := h'.1; omega, h'.2⟩
  | backward =>
    obtain ⟨-, -, -, hlt⟩ := h
    obtain ⟨hborder, hstart, hstop, hbefore⟩ := h'
    unfold onward at hstop hbefore
    exact ⟨hborder, hstart, hstop.trans hlt.le, hbefore.trans hlt⟩

end IsAhead

end Span

/-- Stretches that one search after another can find, from `n` on. -/
def InOrder (border : Nat) (d : Direction) : Nat → List Span → Prop
  | _, [] => True
  | n, s :: rest => s.IsAhead border n d ∧ InOrder border d (s.onward d) rest

namespace InOrder

variable {border n : Nat} {d : Direction} {spans : List Span}

theorem isAhead (h : InOrder border d n spans) : ∀ s ∈ spans, s.IsAhead border n d := by
  induction spans generalizing n with
  | nil => simp
  | cons s rest ih =>
    obtain ⟨hs, hrest⟩ := h
    intro s' hs'
    rcases List.mem_cons.1 hs' with rfl | hs'
    · exact hs
    · exact hs.of_onward (ih hrest s' hs')

theorem pairwise (h : InOrder border d n spans) :
    spans.Pairwise fun a b => a.start ≤ a.stop ∧ b.IsAhead border (a.onward d) d := by
  induction spans generalizing n with
  | nil => exact .nil
  | cons s rest ih =>
    obtain ⟨hs, hrest⟩ := h
    exact .cons (fun b hb => ⟨hs.start_le_stop, hrest.isAhead b hb⟩) (ih hrest)

/-- Every match takes some of the room. -/
theorem length_le (h : InOrder border d n spans) : spans.length ≤ d.room border n := by
  induction spans generalizing n with
  | nil => exact Nat.zero_le _
  | cons s rest ih =>
    obtain ⟨hs, hrest⟩ := h
    exact (ih hrest).trans_lt hs.room_lt

theorem forward_pairwise (h : InOrder border .forward n spans) :
    spans.Pairwise fun a b => a.start < b.start ∧ a.stop ≤ b.stop := by
  refine h.pairwise.imp fun {a b} hab => ?_
  obtain ⟨hstart, hle, hstop, -⟩ := hab
  have honward := Span.start_lt_onward hstart
  have hpast := Span.stop_le_onward a
  exact ⟨by omega, by omega⟩

theorem backward_pairwise (h : InOrder border .backward n spans) :
    spans.Pairwise fun a b => b.start < a.start :=
  h.pairwise.imp fun hab => hab.2.2.2.2

end InOrder

/-! ## What searches find -/

namespace Searcher

variable {r : Node} {t : Text} {span : Span}

theorem search_isAhead {start limit : Nat} (hstart : start ≤ t.length)
    (h : r.search t start limit = some span) : span.IsAhead limit start .forward := by
  unfold Node.search at h
  rw [Nat.min_eq_left hstart] at h
  obtain ⟨hle, hlt, hmatch, -⟩ := Node.firstMatch_eq_some h
  obtain ⟨hstop, hsize⟩ := Node.matchAt_bounds (by omega) hmatch
  refine ⟨hle, hstop, hsize.trans ?_⟩
  rw [List.size_toArray]
  exact List.length_take_le limit t

theorem matchBefore_isAhead {floor stop : Nat} (hstop : stop ≤ t.length)
    (h : matchBefore r t floor stop = some span) : span.IsAhead floor stop .backward := by
  unfold matchBefore at h
  split_ifs at h with hfloor
  dsimp only at h
  rw [Nat.min_eq_left (by omega), Nat.min_eq_left (by omega)] at h
  obtain ⟨hle, hlt, hmatch, -⟩ := Node.lastMatch_eq_some h
  have hsize : (t.take stop).toArray.size = stop := by
    rw [List.size_toArray, List.length_take, Nat.min_eq_left hstop]
  obtain ⟨hstart, hend⟩ := Node.matchAt_bounds (by omega) hmatch
  exact ⟨hle, hstart, by omega, by omega⟩

end Searcher

end TonelessPinyin

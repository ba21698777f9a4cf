import TonelessPinyin.Proofs.Searcher.Order
import TonelessPinyin.Proofs.Session.Enumeration
import TonelessPinyin.Proofs.Session.Invariant
import TonelessPinyin.Proofs.Session.Validity

/-!
Repetitions, one after another. As long as they find something, forward each match begins later than
the one before, and backward each begins earlier, so they come to an end.
-/
namespace TonelessPinyin

open Pattern

/-- How far searches without a bound may go. -/
def Direction.edge (t : Text) : Direction → Nat
  | forward => t.length
  | backward => 0

namespace Searcher

variable {s : Searcher} {r : Node} {d : Direction} {span : Span}

theorem nextMatch_isAhead (hpoint : s.point ≤ s.text.length) (h : s.nextMatch r d = some span) :
    span.IsAhead (d.edge s.text) s.point d := by
  cases d with
  | forward => exact search_isAhead hpoint h
  | backward => exact matchBefore_isAhead hpoint h

end Searcher

namespace Stage

variable {g : Stage} {r : Node} {d : Direction} {span : Span}

/-- Where the next match of a repetition may begin, or before which place. -/
def outset (g : Stage) : Direction → Nat
  | .forward => if g.isAtEmptyMatch then g.searcher.point + 1 else g.searcher.point
  | .backward => g.searcher.point

/-- Nothing is found, or a match that is ahead of `n`, and the next repetition goes on after it. -/
def Result.Progresses (d : Direction) (border n : Nat) (o : Result) : Prop :=
  o.1 = .ok none ∨
    ∃ span : Span, span.IsAhead border n d ∧ o.1 = .ok (some (Searcher.landing d span)) ∧
      o.2.searcher.matched = some span ∧ o.2.outset d = span.onward d

theorem hit_progresses {border n : Nat} (hin : span.IsIn g.searcher.text)
    (hahead : span.IsAhead border n g.session.direction) :
    (g.hit span).Progresses g.session.direction border n := by
  have hpoint := Searcher.clamp_of_le (Searcher.landing_le hin g.session.direction)
  refine .inr ⟨span, hahead, ?_, ?_, ?_⟩
  · simp only [hit, hpoint]
  · simp only [hit, emit_eq]
  · simp only [hit, hpoint, emit_eq]
    cases g.session.direction with
    | backward => rfl
    | forward =>
      -- the cursor is at the end of the match, which is its start only if the match is empty
      obtain ⟨start, stop⟩ := span
      have hle : start ≤ stop := hin.start_le
      unfold outset Span.onward isAtEmptyMatch
      simp only [Searcher.landing, Option.isSome_some, Bool.true_and, beq_iff_eq,
        Option.some.injEq, Span.mk.injEq, and_true]
      split_ifs <;> omega

/-- A search progresses from the cursor. -/
theorem search_progresses (hpoint : g.searcher.point ≤ g.searcher.text.length)
    (hr : prepare g.searcher.caseless g.session.pattern = .ok r) :
    g.search.Progresses g.session.direction (g.session.direction.edge g.searcher.text)
      g.searcher.point := by
  cases hmatch : g.searcher.nextMatch r g.session.direction with
  | none =>
    rw [search_of_none hr hmatch]
    exact .inl rfl
  | some span =>
    rw [search_of_some hr hmatch]
    exact hit_progresses (Searcher.nextMatch_isIn hmatch) (Searcher.nextMatch_isAhead hpoint hmatch)

theorem setPoint_succ_of_lt (hlt : g.searcher.point < g.searcher.text.length) :
    (g.setPoint (g.searcher.point + 1)).searcher.point = g.searcher.point + 1 :=
  Searcher.clamp_of_le hlt

theorem setPoint_succ_of_eq (hend : g.searcher.point = g.searcher.text.length) :
    (g.setPoint (g.searcher.point + 1)).searcher.point = g.searcher.point := by
  change min (g.searcher.point + 1) g.searcher.text.length = g.searcher.point
  omega

theorem stepPast_progresses (hpoint : g.searcher.point ≤ g.searcher.text.length)
    (hr : prepare g.searcher.caseless g.session.pattern = .ok r) :
    g.stepPast.Progresses g.session.direction (g.session.direction.edge g.searcher.text)
      (g.searcher.point + 1) := by
  rcases hpoint.eq_or_lt with hend | hlt
  · -- there is no character to step past
    rw [stepPast, if_pos (setPoint_succ_of_eq hend)]
    exact .inl rfl
  · have honward := setPoint_succ_of_lt hlt
    have hnext :=
      search_progresses (g := g.setPoint (g.searcher.point + 1)) (honward.trans_le hlt) hr
    rw [honward] at hnext
    rw [stepPast, if_neg (by omega)]
    split
    · exact .inl rfl
    · exact hnext

/-- A repetition progresses from its outset. -/
theorem again_progresses (hpoint : g.searcher.point ≤ g.searcher.text.length)
    (hr : prepare g.searcher.caseless g.session.pattern = .ok r) (d : Direction) :
    (g.again (some d)).Progresses d (d.edge g.searcher.text) (g.outset d) := by
  by_cases hnil : g.session.pattern = []
  · rw [again_of_nil _ hnil]
    exact .inl rfl
  · rw [again_of_ne_nil _ hnil]
    have hsearch := search_progresses (g := g.turned (some d)) hpoint hr
    have hpast := stepPast_progresses (g := g.turned (some d)) hpoint hr
    cases d with
    | backward => exact hsearch
    | forward =>
      -- the outset is where the repetition searches from in either case
      unfold outset
      by_cases hempty : g.isAtEmptyMatch = true
      · simp only [hempty, Option.getD_some, and_self, if_true]
        exact hpast
      · rw [if_neg hempty, if_neg fun h => hempty h.2]
        exact hsearch

end Stage

/-! ## Runs of repetitions -/

namespace Desk

variable {t : Text} {r : Node} {i : Nat} {session : Session} {d : Desk}

/-- The value, and the match that has been found. -/
def Outcome.shown (o : Outcome) : Except Error (Option Nat) × Option Span :=
  (o.value, match o.value with
    | .ok (some _) => o.desk.searcher.matched
    | _ => none)

/-- A repetition in an open session. -/
theorem act_again (hsession : d.sessions[i]? = some session) (hopen : session.closed = false)
    (compile : CompileQuery) (direction : Option Direction) :
    let o := d.act compile (.command i (.again direction))
    let result := (d.stage session).again direction
    o.value = result.1 ∧
      o.desk = { d with
        searcher := result.2.searcher
        sessions := d.sessions.set i result.2.session } := by
  rw [act_of_open compile hsession hopen]
  exact ⟨rfl, rfl⟩

/-- The session is open and has a pattern that can be read. -/
structure CanRepeat (t : Text) (r : Node) (i : Nat) (session : Session) (d : Desk) : Prop where
  isThere : d.sessions[i]? = some session
  isOpen : session.closed = false
  text : d.searcher.text = t
  point_le : d.searcher.point ≤ t.length
  prepared : prepare d.searcher.caseless session.pattern = .ok r

/-- One repetition, after which there can be more. -/
theorem CanRepeat.again (h : CanRepeat t r i session d) (compile : CompileQuery)
    (direction : Option Direction) :
    let o := d.act compile (.command i (.again direction))
    let g := ((d.stage session).again direction).2
    o.value = ((d.stage session).again direction).1 ∧ o.desk.searcher = g.searcher ∧
      (o.desk.stage g.session).outset = g.outset ∧ CanRepeat t r i g.session o.desk := by
  obtain ⟨hsession, hopen, rfl, hpoint, hr⟩ := h
  have hkeeps := Stage.Keeps.again (d.stage session) direction
  have hlt : i < d.sessions.length := (List.getElem?_eq_some_iff.1 hsession).1
  obtain ⟨hvalue, hdesk⟩ := act_again hsession hopen compile direction
  dsimp only
  rw [hvalue, hdesk]
  refine ⟨rfl, rfl, ?_, List.getElem?_set_self hlt, (Stage.closed_again _ _).trans hopen,
    hkeeps.searcher.text, hkeeps.searcher.point_le hpoint, ?_⟩
  · funext direction
    cases direction
    · rfl
    · rfl
  · rw [hkeeps.searcher.caseless, Stage.again_session]
    exact hr

/-- Repetitions in one direction come to matches in order, and then to none. The induction is on the
room that is left for them. -/
theorem CanRepeat.exists_inOrder (h : CanRepeat t r i session d) (compile : CompileQuery)
    (direction : Direction) :
    ∃ spans, InOrder (direction.edge t) direction ((d.stage session).outset direction) spans ∧
      (d.outcomes compile (List.replicate (spans.length + 1)
        (.command i (.again (some direction))))).map Outcome.shown =
        spans.map (fun s => (.ok (some (Searcher.landing direction s)), some s)) ++
          [(.ok none, none)] := by
  induction hroom : direction.room (direction.edge t) ((d.stage session).outset direction)
    using Nat.strong_induction_on generalizing d session with
  | _ room ih =>
    obtain ⟨hvalue, hsearcher, houtset, hnext⟩ := h.again compile (some direction)
    have hpoint : d.searcher.point ≤ d.searcher.text.length := h.text ▸ h.point_le
    rcases Stage.again_progresses (g := d.stage session) hpoint h.prepared direction with
      hnone | ⟨span, hahead, hsome, hmatched, honward⟩
    · have hshown : (d.act compile (.command i (.again (some direction)))).shown =
          (.ok none, none) := by
        unfold Outcome.shown
        rw [hvalue, hnone]
      exact ⟨[], trivial, congrArg ([·]) hshown⟩
    · have hshown : (d.act compile (.command i (.again (some direction)))).shown =
          (.ok (some (Searcher.landing direction span)), some span) := by
        unfold Outcome.shown
        rw [hvalue, hsome, hsearcher, hmatched]
      rw [h.text] at hahead
      rw [← houtset] at honward
      have hless := hahead.room_lt
      rw [← honward, hroom] at hless
      obtain ⟨rest, hrest, houtcomes⟩ := ih _ hless hnext rfl
      rw [honward] at hrest
      exact ⟨span :: rest, ⟨hahead, hrest⟩, congrArg₂ List.cons hshown houtcomes⟩

/-- As long as repetitions in a session find something they get on, whatever has been done on the
desk before. Forward the matches have ever later starts, and the ends that are given never go back;
backward the starts are given, ever earlier ones. So there are no more matches than positions to
begin at, and after them a repetition finds nothing. -/
theorem repetitions_advance {point : Int} {caseless : Bool} {listener : Option Listener}
    (h : Reachable t point caseless listener d) (hsession : d.sessions[i]? = some session)
    (hopen : session.closed = false) (hr : prepare caseless session.pattern = .ok r)
    (compile : CompileQuery) :
    (∃ spans : List Span,
      spans.Pairwise (fun a b => a.start < b.start ∧ a.stop ≤ b.stop) ∧
      (∀ s ∈ spans, d.searcher.point ≤ s.start ∧ s.start ≤ s.stop ∧ s.stop ≤ t.length) ∧
      spans.length ≤ t.length - d.searcher.point + 1 ∧
      (d.outcomes compile (List.replicate (spans.length + 1)
        (.command i (.again (some .forward))))).map Outcome.shown =
        spans.map (fun s => (.ok (some s.stop), some s)) ++ [(.ok none, none)]) ∧
    ∃ spans : List Span,
      spans.Pairwise (fun a b => b.start < a.start) ∧
      (∀ s ∈ spans, s.start ≤ s.stop ∧ s.stop ≤ d.searcher.point ∧ s.start < d.searcher.point) ∧
      spans.length ≤ d.searcher.point ∧
      (d.outcomes compile (List.replicate (spans.length + 1)
        (.command i (.again (some .backward))))).map Outcome.shown =
        spans.map (fun s => (.ok (some s.start), some s)) ++ [(.ok none, none)] := by
  have hover := h.isOver
  have hrepeat : CanRepeat t r i session d :=
    ⟨hsession, hopen, hover.text, hover.point_le, hover.caseless ▸ hr⟩
  constructor
  · obtain ⟨spans, hspans, houtcomes⟩ := hrepeat.exists_inOrder compile .forward
    have houtset : d.searcher.point ≤ (d.stage session).outset .forward := by
      unfold Stage.outset
      dsimp only
      split_ifs <;> omega
    have hlength : spans.length ≤ t.length + 1 - (d.stage session).outset .forward :=
      hspans.length_le
    have hpoint := hover.point_le
    refine ⟨spans, hspans.forward_pairwise, fun s hs => ?_, by omega, houtcomes⟩
    obtain ⟨hstart, hbounds⟩ := hspans.isAhead s hs
    exact ⟨houtset.trans hstart, hbounds⟩
  · obtain ⟨spans, hspans, houtcomes⟩ := hrepeat.exists_inOrder compile .backward
    exact ⟨spans, hspans.backward_pairwise, fun s hs => (hspans.isAhead s hs).2, hspans.length_le,
      houtcomes⟩

/-- In `ab` the pattern `b*` has an empty match at the start. After it the repetitions find `b`,
then the empty match at the end, which gives the same position once more, and then nothing. -/
theorem repetitions_advance_ab :
    let e : Engine := ⟨.ofTable ⟨[(['a'], ['ā'])]⟩, .custom, ⟨true, .regexp⟩⟩
    let t : Text := ['a', 'b']
    let pattern : Text := ['b', '*']
    let d := (Desk.new (.new t 0 true) none).run e.compileQuery
      [.start [] .forward .regexp, .command 0 (.update pattern)]
    let session : Session := ⟨[], .forward, .regexp, 0, pattern, pattern, false, some 0⟩
    let r := (prepare true pattern).toOption.getD .empty
    Reachable t 0 true none d ∧ d.sessions[0]? = some session ∧ session.closed = false ∧
      prepare true session.pattern = .ok r ∧
      (∃ spans : List Span, spans.length ≤ 3 ∧
        (d.outcomes e.compileQuery (List.replicate (spans.length + 1)
          (.command 0 (.again (some .forward))))).map Outcome.shown =
          spans.map (fun s => (.ok (some s.stop), some s)) ++ [(.ok none, none)]) ∧
      (d.outcomes e.compileQuery (List.replicate 3
        (.command 0 (.again (some .forward))))).map Outcome.shown =
        [(.ok (some 2), some ⟨1, 2⟩), (.ok (some 2), some ⟨2, 2⟩), (.ok none, none)] := by
  intro e t pattern d session r
  have hreachable : Reachable t 0 true none d :=
    .act e.compileQuery (.act e.compileQuery .new trivial) trivial
  have hsession : d.sessions[0]? = some session := by decide
  have hr : prepare true session.pattern = .ok r := by decide
  obtain ⟨⟨spans, -, -, hlength, houtcomes⟩, -⟩ :=
    repetitions_advance hreachable hsession rfl hr e.compileQuery
  exact ⟨hreachable, hsession, rfl, hr, ⟨spans, hlength, houtcomes⟩, by decide⟩

end Desk

end TonelessPinyin

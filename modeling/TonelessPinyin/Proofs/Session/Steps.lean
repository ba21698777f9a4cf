import Mathlib.Tactic.SplitIfs
import TonelessPinyin.Session.Desk

/-!
The steps of sessions. A search finds the next match, finds none or refuses the pattern, and a new
query is a search from the origin. No command changes the text, or where the session began.
-/
namespace TonelessPinyin

open Pattern

theorem Pattern.prepare_error_cases {caseless : Bool} {source : Text} {e : Error}
    (h : prepare caseless source = .error e) :
    (∃ flaw, e = .invalidPattern source flaw) ∨ ∃ excess, e = .excessivePattern excess := by
  rw [prepare] at h
  split at h
  · cases h
  · next flaw _ => exact .inl ⟨flaw, (Except.error.inj h).symm⟩
  · next excess _ => exact .inr ⟨excess, (Except.error.inj h).symm⟩

/-! ## Searchers -/

namespace Searcher

theorem clamp_of_le {t : Text} {n : Nat} (h : n ≤ t.length) : clamp t n = n := Nat.min_eq_left h

/-- The match that a search without a bound finds next. -/
def nextMatch (s : Searcher) (r : Node) : Direction → Option Span
  | .forward => r.search s.text s.point s.text.length
  | .backward => matchBefore r s.text 0 s.point

/-- Where the cursor goes after a match. -/
def landing : Direction → Span → Nat
  | .forward, span => span.stop
  | .backward, span => span.start

theorem search_next (s : Searcher) (d : Direction) (pattern : Text) :
    s.search d (.next pattern) =
      match prepare s.caseless pattern with
      | .error e => (.error e, s)
      | .ok r =>
        match s.nextMatch r d with
        | some span => s.found span (landing d span)
        | none => (.ok none, s) := by
  cases d
  · change s.forward (.next pattern) 1 = _
    rw [forward]
    rfl
  · change s.backward (.next pattern) 1 = _
    rw [backward]
    rfl

/-- The other searcher has the same text, and if the cursor was in the text, it still is. -/
structure Keeps (s s' : Searcher) : Prop where
  text : s'.text = s.text
  caseless : s'.caseless = s.caseless
  point_le : s.point ≤ s.text.length → s'.point ≤ s.text.length

namespace Keeps

theorem refl (s : Searcher) : s.Keeps s := ⟨rfl, rfl, id⟩

theorem trans {s s' s'' : Searcher} (h : s.Keeps s') (h' : s'.Keeps s'') : s.Keeps s'' := by
  refine ⟨h'.text.trans h.text, h'.caseless.trans h.caseless, fun hpoint => ?_⟩
  have hpoint' := h'.point_le (h.text ▸ h.point_le hpoint)
  rwa [h.text] at hpoint'

theorem setPoint (s : Searcher) (matched : Option Span) (n : Int) :
    s.Keeps ({ s with matched }.setPoint n) :=
  ⟨rfl, rfl, fun _ => clamp_le_length s.text n⟩

end Keeps

theorem fail_keeps (s : Searcher) (pattern : Text) (bound : Nat) (onFailure : OnFailure) :
    s.Keeps (s.fail pattern bound onFailure).2 := by
  cases onFailure with
  | raise => exact .refl s
  | stay => exact .refl s
  | goToBound => exact .setPoint s s.matched bound

theorem forward_keeps (s : Searcher) (a : SearchArgs) (count : Nat) :
    s.Keeps (s.forward a count).2 := by
  rw [forward]
  split
  · exact .refl s
  · split_ifs
    · exact .refl s
    · split
      · next span _ => exact .setPoint s (some span) span.stop
      · exact s.fail_keeps _ _ _

theorem backward_keeps (s : Searcher) (a : SearchArgs) (count : Nat) :
    s.Keeps (s.backward a count).2 := by
  rw [backward]
  split
  · exact .refl s
  · split_ifs
    · exact .refl s
    · split
      · next span _ => exact .setPoint s (some span) span.start
      · exact s.fail_keeps _ _ _

theorem search_keeps (s : Searcher) (d : Direction) (a : SearchArgs) :
    s.Keeps (s.search d a).2 := by
  unfold search
  split
  · exact s.forward_keeps a _
  · exact s.backward_keeps a _
  · exact s.backward_keeps a _
  · exact s.forward_keeps a _

end Searcher

/-! ## Stages -/

namespace Stage

/-- The notices of an event. -/
def heard : Option Listener → Event → List Notice
  | none, _ => []
  | some deals, e => if deals e then [.event e] else [.event e, .listenerFailed]

theorem emit_eq (g : Stage) (e : Event) :
    g.emit e = { g with notices := g.notices ++ heard g.listener e } := by
  obtain ⟨session, searcher, listener, notices⟩ := g
  cases listener with
  | none => simp [emit, heard]
  | some deals => cases h : deals e <;> simp [emit, heard, note, h]

/-! ### What a search does -/

section Search

variable {g : Stage}

theorem search_of_invalid {flaw : Flaw}
    (h : prepare g.searcher.caseless g.session.pattern =
      .error (.invalidPattern g.session.pattern flaw)) :
    g.search = g.miss (.invalidPattern g.session.pattern flaw) := by
  rw [search, Searcher.search_next, h]

theorem search_of_excessive {excess : Excess}
    (h : prepare g.searcher.caseless g.session.pattern = .error (.excessivePattern excess)) :
    g.search = (.error (.excessivePattern excess), g) := by
  rw [search, Searcher.search_next, h]

theorem search_of_none {r : Node} (h : prepare g.searcher.caseless g.session.pattern = .ok r)
    (hnone : g.searcher.nextMatch r g.session.direction = none) :
    g.search = (g.note (.searchFailed g.session.pattern)).miss
      (.failed g.session.pattern g.session.direction) := by
  rw [search, Searcher.search_next, h]
  simp only [hnone]

/-- A match moves the cursor and is told to the listener. -/
def hit (g : Stage) (span : Span) : Result :=
  let n := Searcher.clamp g.searcher.text (Searcher.landing g.session.direction span)
  (.ok (some n),
    { g with
      session := { g.session with lastMatch := some n },
      searcher := { g.searcher with matched := some span, point := n } }.emit
        (.found g.session.pattern g.session.direction n (some span)))

theorem search_of_some {r : Node} (h : prepare g.searcher.caseless g.session.pattern = .ok r)
    {span : Span} (hsome : g.searcher.nextMatch r g.session.direction = some span) :
    g.search = g.hit span := by
  rw [search, Searcher.search_next, h]
  simp only [hsome]
  rfl

/-- Both stages search for the same pattern from the same place in the same text. -/
structure SearchesLike (g g' : Stage) : Prop where
  pattern : g'.session.pattern = g.session.pattern
  direction : g'.session.direction = g.session.direction
  text : g'.searcher.text = g.searcher.text
  caseless : g'.searcher.caseless = g.searcher.caseless
  point : g'.searcher.point = g.searcher.point

theorem SearchesLike.nextMatch {g' : Stage} (h : g.SearchesLike g') (r : Node) (d : Direction) :
    g'.searcher.nextMatch r d = g.searcher.nextMatch r d := by
  cases d <;> simp only [Searcher.nextMatch, h.text, h.point]

/-- All that a search can do, and it does the same on a stage like this one: it refuses the pattern
for its excess and leaves the stage alone, it refuses the pattern for a flaw, it finds nothing, or
it finds the next match. -/
theorem SearchesLike.search_cases {g' : Stage} (h : g.SearchesLike g') :
    (∃ excess, prepare g.searcher.caseless g.session.pattern = .error (.excessivePattern excess) ∧
        g.search = (.error (.excessivePattern excess), g) ∧
        g'.search = (.error (.excessivePattern excess), g')) ∨
      (∃ flaw, g.search = g.miss (.invalidPattern g.session.pattern flaw) ∧
        g'.search = g'.miss (.invalidPattern g.session.pattern flaw)) ∨
      (g.search = (g.note (.searchFailed g.session.pattern)).miss
          (.failed g.session.pattern g.session.direction) ∧
        g'.search = (g'.note (.searchFailed g.session.pattern)).miss
          (.failed g.session.pattern g.session.direction)) ∨
      ∃ r span, g.searcher.nextMatch r g.session.direction = some span ∧
        g.search = g.hit span ∧ g'.search = g'.hit span := by
  have hprepare' : prepare g'.searcher.caseless g'.session.pattern =
      prepare g.searcher.caseless g.session.pattern := by
    rw [h.caseless, h.pattern]
  cases hprepare : prepare g.searcher.caseless g.session.pattern with
  | error e =>
    rw [hprepare] at hprepare'
    rcases prepare_error_cases hprepare with ⟨flaw, rfl⟩ | ⟨excess, rfl⟩
    · rw [← h.pattern] at hprepare'
      have hsearch' := search_of_invalid hprepare'
      rw [h.pattern] at hsearch'
      exact .inr (.inl ⟨flaw, search_of_invalid hprepare, hsearch'⟩)
    · exact .inl ⟨excess, rfl, search_of_excessive hprepare, search_of_excessive hprepare'⟩
  | ok r =>
    rw [hprepare] at hprepare'
    have hnext := h.nextMatch r g'.session.direction
    rw [h.direction] at hnext
    cases hmatch : g.searcher.nextMatch r g.session.direction with
    | none =>
      have hsearch' := search_of_none hprepare' (by rw [h.direction, hnext, hmatch])
      rw [h.pattern, h.direction] at hsearch'
      exact .inr (.inr (.inl ⟨search_of_none hprepare hmatch, hsearch'⟩))
    | some span =>
      have hsearch' := search_of_some hprepare' (by rw [h.direction, hnext, hmatch])
      exact .inr (.inr (.inr ⟨r, span, hmatch, search_of_some hprepare hmatch, hsearch'⟩))

theorem search_cases (g : Stage) :
    (∃ excess, prepare g.searcher.caseless g.session.pattern = .error (.excessivePattern excess) ∧
        g.search = (.error (.excessivePattern excess), g)) ∨
      (∃ flaw, g.search = g.miss (.invalidPattern g.session.pattern flaw)) ∨
      g.search = (g.note (.searchFailed g.session.pattern)).miss
        (.failed g.session.pattern g.session.direction) ∨
      ∃ r span, g.searcher.nextMatch r g.session.direction = some span ∧
        g.search = g.hit span := by
  have hself : g.SearchesLike g := ⟨rfl, rfl, rfl, rfl, rfl⟩
  obtain ⟨excess, hexcess, h, -⟩ | ⟨flaw, h, -⟩ | ⟨h, -⟩ | ⟨r, span, hmatch, h, -⟩ :=
    hself.search_cases
  · exact .inl ⟨excess, hexcess, h⟩
  · exact .inr (.inl ⟨flaw, h⟩)
  · exact .inr (.inr (.inl h))
  · exact .inr (.inr (.inr ⟨r, span, hmatch, h⟩))

/-- A search changes nothing in the session but its last match. -/
theorem search_session (g : Stage) :
    g.search.2.session = { g.session with lastMatch := g.search.2.session.lastMatch } := by
  obtain ⟨excess, -, h⟩ | ⟨flaw, h⟩ | h | ⟨r, span, -, h⟩ := g.search_cases
  · rw [h]
  · rw [h, miss, emit_eq]
  · rw [h, miss, emit_eq]
    rfl
  · rw [h]
    simp only [hit, emit_eq]

theorem lastMatch_search_of_none (h : g.search.1 = .ok none) :
    g.search.2.session.lastMatch = none := by
  obtain ⟨excess, -, heq⟩ | ⟨flaw, heq⟩ | heq | ⟨r, span, -, heq⟩ := g.search_cases
  · rw [heq] at h
    cases h
  · rw [heq, miss, emit_eq]
  · rw [heq, miss, emit_eq]
  · rw [heq] at h
    cases h

end Search

/-! ### New queries -/

/-- The stage on which a new query that has a pattern is searched for. -/
def refreshed (g : Stage) (query pattern : Text) : Stage :=
  (({ g with session := { g.session with query, pattern } }.setPoint g.session.origin).note
    (.compiled query g.session.strategy)).emit (.compiled query pattern g.session.strategy)

theorem update_nil (compile : CompileQuery) (g : Stage) :
    g.update compile [] = (.ok none,
      { g with
        session := { g.session with query := [], pattern := [], lastMatch := none } }.setPoint
          g.session.origin) := rfl

theorem update_of_ok {compile : CompileQuery} {g : Stage} {query pattern : Text} (hne : query ≠ [])
    (h : compile query g.session.strategy = .ok pattern) :
    g.update compile query = (g.refreshed query pattern).search := by
  have hnonempty : query.isEmpty = false := by simpa using hne
  simp only [update, hnonempty, Bool.false_eq_true, if_false, compileAndSearch, setPoint, h]
  rfl

theorem update_of_error {compile : CompileQuery} {g : Stage} {query : Text} {e : Error}
    (hne : query ≠ []) (h : compile query g.session.strategy = .error e) :
    g.update compile query = (.error e,
      { g with session := { g.session with query } }.setPoint g.session.origin) := by
  have hnonempty : query.isEmpty = false := by simpa using hne
  simp only [update, hnonempty, Bool.false_eq_true, if_false, compileAndSearch, setPoint, h]

/-! ### Repetitions -/

/-- The stage on which a repetition searches on. -/
def turned (g : Stage) (direction : Option Direction) : Stage :=
  { g with session := { g.session with direction := direction.getD g.session.direction } }

theorem again_of_nil {g : Stage} (direction : Option Direction) (h : g.session.pattern = []) :
    g.again direction = (.ok none, g.turned direction) := by
  rw [again, h]
  rfl

theorem again_of_ne_nil {g : Stage} (direction : Option Direction) (h : g.session.pattern ≠ []) :
    g.again direction =
      if direction.getD g.session.direction = .forward ∧ g.isAtEmptyMatch = true then
        (g.turned direction).stepPast
      else (g.turned direction).search := by
  have hnonempty : g.session.pattern.isEmpty = false := by simpa using h
  simp only [again, hnonempty, Bool.false_eq_true, if_false, Bool.and_eq_true, decide_eq_true_eq]
  rfl

/-- From an empty match a repetition does not get on at the end of the text. Elsewhere it searches
from the next position, and goes back if nothing is there. -/
theorem stepPast_cases (g : Stage) :
    let onward := g.setPoint (g.searcher.point + 1)
    onward.searcher.point = g.searcher.point ∧
        g.stepPast = onward.miss (.failed g.session.pattern g.session.direction) ∨
      onward.search.1 = .ok none ∧
        g.stepPast = (.ok none, onward.search.2.setPoint g.searcher.point) ∨
      onward.search.1 ≠ .ok none ∧ g.stepPast = onward.search := by
  intro onward
  rw [stepPast]
  split_ifs with hend
  · exact .inl ⟨hend, rfl⟩
  · split
    · next h => exact .inr (.inl ⟨by rw [h], by rw [h]⟩)
    · next hne =>
      refine .inr (.inr ⟨fun hnone => ?_, rfl⟩)
      exact hne onward.search.2 (Prod.ext hnone rfl)

/-! ### Closing -/

end Stage

def Command.Closes : Command → Prop
  | .finish | .abort => True
  | _ => False

namespace Stage

theorem closed_stepPast (g : Stage) : g.stepPast.2.session.closed = g.session.closed := by
  have honward :
      (g.setPoint (g.searcher.point + 1)).search.2.session.closed = g.session.closed := by
    rw [search_session]
    rfl
  obtain ⟨-, h⟩ | ⟨-, h⟩ | ⟨-, h⟩ := g.stepPast_cases
  · rw [h, miss, emit_eq]
    rfl
  · rw [h]
    exact honward
  · rw [h]
    exact honward

theorem closed_again (g : Stage) (direction : Option Direction) :
    (g.again direction).2.session.closed = g.session.closed := by
  by_cases hnil : g.session.pattern = []
  · rw [again_of_nil direction hnil]
    rfl
  · rw [again_of_ne_nil direction hnil]
    split_ifs
    · exact closed_stepPast _
    · rw [search_session]
      rfl

theorem closed_update (compile : CompileQuery) (g : Stage) (query : Text) :
    (g.update compile query).2.session.closed = g.session.closed := by
  by_cases hnil : query = []
  · rw [hnil, update_nil]
    rfl
  · cases hcompile : compile query g.session.strategy with
    | error e =>
      rw [update_of_error hnil hcompile]
      rfl
    | ok pattern =>
      rw [update_of_ok hnil hcompile, search_session, refreshed, emit_eq]
      rfl

/-- Closing a session changes nothing else in it. -/
theorem run_of_closes (compile : CompileQuery) (g : Stage) {c : Command} (hc : c.Closes) :
    (g.run compile c).2.session = { g.session with closed := true } := by
  cases c with
  | update query => exact hc.elim
  | again direction => exact hc.elim
  | toggle => exact hc.elim
  | finish => rw [run, close, emit_eq]
  | abort =>
    rw [run, close, emit_eq]
    rfl

/-- A session is closed by finishing or aborting it, and by nothing else. -/
theorem closed_run (compile : CompileQuery) (g : Stage) (c : Command) :
    (g.run compile c).2.session.closed = true ↔ g.session.closed = true ∨ c.Closes := by
  cases c with
  | update query => simp [run, closed_update, Command.Closes]
  | again direction => simp [run, closed_again, Command.Closes]
  | toggle => simp [run, toggle, note, closed_update, Command.Closes]
  | finish => simp [run_of_closes compile g (c := .finish) trivial, Command.Closes]
  | abort => simp [run_of_closes compile g (c := .abort) trivial, Command.Closes]

/-! ### What stays -/

/-- The other stage has the same text and listener, and its session began at the same place. -/
structure Keeps (g g' : Stage) : Prop where
  searcher : g.searcher.Keeps g'.searcher
  origin : g'.session.origin = g.session.origin
  listener : g'.listener = g.listener

namespace Keeps

theorem refl (g : Stage) : g.Keeps g := ⟨.refl _, rfl, rfl⟩

theorem trans {g g' g'' : Stage} (h : g.Keeps g') (h' : g'.Keeps g'') : g.Keeps g'' :=
  ⟨h.searcher.trans h'.searcher, h'.origin.trans h.origin, h'.listener.trans h.listener⟩

theorem note (g : Stage) (n : Notice) : g.Keeps (g.note n) := ⟨.refl _, rfl, rfl⟩

theorem emit (g : Stage) (e : Event) : g.Keeps (g.emit e) := by
  rw [emit_eq]
  exact ⟨.refl _, rfl, rfl⟩

theorem setPoint (g : Stage) (n : Int) : g.Keeps (g.setPoint n) :=
  ⟨.setPoint g.searcher g.searcher.matched n, rfl, rfl⟩

theorem miss (g : Stage) (e : Event) : g.Keeps (g.miss e).2 := by
  refine trans ?_ (.emit _ e)
  exact ⟨.refl _, rfl, rfl⟩

theorem hit (g : Stage) (span : Span) : g.Keeps (g.hit span).2 := by
  refine trans ?_ (.emit _ _)
  exact ⟨.setPoint g.searcher (some span) _, rfl, rfl⟩

theorem search (g : Stage) : g.Keeps g.search.2 := by
  obtain ⟨excess, -, h⟩ | ⟨flaw, h⟩ | h | ⟨r, span, -, h⟩ := g.search_cases
  · rw [h]
    exact .refl g
  · rw [h]
    exact .miss g _
  · rw [h]
    exact trans (.note g _) (.miss _ _)
  · rw [h]
    exact .hit g span

theorem compileAndSearch (compile : CompileQuery) (g : Stage) :
    g.Keeps (g.compileAndSearch compile).2 := by
  rw [Stage.compileAndSearch]
  split
  · exact .refl g
  · refine trans (trans (trans ?_ (.note _ _)) (.emit _ _)) (.search _)
    exact ⟨.refl _, rfl, rfl⟩

theorem update (compile : CompileQuery) (g : Stage) (query : Text) :
    g.Keeps (g.update compile query).2 := by
  rw [Stage.update]
  split_ifs
  · exact ⟨.setPoint _ _ _, rfl, rfl⟩
  · refine trans (trans ?_ (.setPoint _ _)) (.compileAndSearch compile _)
    exact ⟨.refl _, rfl, rfl⟩

theorem stepPast (g : Stage) : g.Keeps g.stepPast.2 := by
  have honward := Keeps.setPoint g (g.searcher.point + 1)
  have hsearch := honward.trans (.search _)
  obtain ⟨-, h⟩ | ⟨-, h⟩ | ⟨-, h⟩ := g.stepPast_cases
  · rw [h]
    exact honward.trans (.miss _ _)
  · rw [h]
    exact hsearch.trans (.setPoint _ _)
  · rw [h]
    exact hsearch

theorem again (g : Stage) (direction : Option Direction) : g.Keeps (g.again direction).2 := by
  rw [Stage.again]
  split_ifs
  · exact ⟨.refl _, rfl, rfl⟩
  · refine trans ?_ (.stepPast _)
    exact ⟨.refl _, rfl, rfl⟩
  · refine trans ?_ (.search _)
    exact ⟨.refl _, rfl, rfl⟩

theorem toggle (compile : CompileQuery) (g : Stage) : g.Keeps (g.toggle compile).2 := by
  refine trans (trans ?_ (.note _ _)) (.update compile _ _)
  exact ⟨.refl _, rfl, rfl⟩

theorem close (g : Stage) (aborted : Bool) : g.Keeps (g.close aborted).2 := by
  refine trans ?_ (.emit _ _)
  exact ⟨.refl _, rfl, rfl⟩

theorem run (compile : CompileQuery) (g : Stage) (c : Command) : g.Keeps (g.run compile c).2 := by
  cases c with
  | update query => exact .update compile g query
  | again direction => exact .again g direction
  | toggle => exact .toggle compile g
  | finish => exact .close g false
  | abort => exact trans (.setPoint g _) (.close _ true)

theorem step (compile : CompileQuery) (g : Stage) (c : Command) : g.Keeps (g.step compile c).2 := by
  rw [Stage.step]
  split_ifs
  · exact .refl g
  · exact .run compile g c

end Keeps

end Stage

end TonelessPinyin

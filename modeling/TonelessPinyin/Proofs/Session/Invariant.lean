import TonelessPinyin.Proofs.Query.Empty
import TonelessPinyin.Proofs.Searcher.Bounds
import TonelessPinyin.Proofs.Session.Runs

/-!
What always holds of a session that alone uses its searcher. Its pattern is that of its query, and
the cursor stands where its last match has left it. Only a pattern that is refused for its excess
leaves behind a last match that is no longer there.
-/
namespace TonelessPinyin

open Pattern

namespace Searcher

theorem nextMatch_isIn {s : Searcher} {r : Node} {d : Direction} {span : Span}
    (h : s.nextMatch r d = some span) : span.IsIn s.text := by
  cases d with
  | forward => exact Node.search_isIn h
  | backward => exact matchBefore_isIn h

end Searcher

namespace Stage

variable {g : Stage} {compile : CompileQuery}

/-- The session's pattern is refused for its excess. -/
def IsExcessive (g : Stage) : Prop :=
  ∃ excess, prepare g.searcher.caseless g.session.pattern = .error (.excessivePattern excess)

/-- If the session has a last match, it is that of the searcher, and the cursor stands where a
search in the session's direction has left it. -/
def IsAtLastMatch (g : Stage) : Prop :=
  ∀ n, g.session.lastMatch = some n → ∃ span, g.searcher.matched = some span ∧
    span.IsIn g.searcher.text ∧ n = Searcher.landing g.session.direction span ∧ n = g.searcher.point

theorem isAtLastMatch_of_none (h : g.session.lastMatch = none) : g.IsAtLastMatch := by
  intro n hn
  rw [h] at hn
  cases hn

/-- The pattern and the last match fit the rest of the session and the searcher. -/
structure IsSound (compile : CompileQuery) (g : Stage) : Prop where
  pattern : compile g.session.query g.session.strategy = .ok g.session.pattern
  lastMatch_nil : g.session.pattern = [] → g.session.lastMatch = none
  lastMatch : g.IsExcessive ∨ g.IsAtLastMatch

/-! ### Searches -/

/-- Whatever has been before, after a search the cursor is at the last match. -/
theorem lastMatch_search (g : Stage) : g.search.2.IsExcessive ∨ g.search.2.IsAtLastMatch := by
  obtain ⟨excess, hexcess, h⟩ | ⟨flaw, h⟩ | h | ⟨r, span, hmatch, h⟩ := g.search_cases
  · rw [h]
    exact .inl ⟨excess, hexcess⟩
  · rw [h, miss, emit_eq]
    exact .inr (isAtLastMatch_of_none rfl)
  · rw [h, miss, emit_eq]
    exact .inr (isAtLastMatch_of_none rfl)
  · rw [h]
    simp only [hit, emit_eq]
    have hin := Searcher.nextMatch_isIn hmatch
    have hclamp := Searcher.clamp_of_le (Searcher.landing_le hin g.session.direction)
    refine .inr fun n hn => ?_
    obtain rfl := Option.some.inj hn
    exact ⟨span, rfl, hin, hclamp, rfl⟩

theorem isSound_search (h : compile g.session.query g.session.strategy = .ok g.session.pattern)
    (hne : g.session.pattern ≠ []) : g.search.2.IsSound compile := by
  refine ⟨?_, fun hnil => absurd ?_ hne, g.lastMatch_search⟩
  · rw [g.search_session]
    exact h
  · rw [g.search_session] at hnil
    exact hnil

theorem isSound_stepPast (h : compile g.session.query g.session.strategy = .ok g.session.pattern)
    (hne : g.session.pattern ≠ []) : g.stepPast.2.IsSound compile := by
  have honward := isSound_search (g := g.setPoint (g.searcher.point + 1)) h hne
  obtain ⟨-, heq⟩ | ⟨hnone, heq⟩ | ⟨-, heq⟩ := g.stepPast_cases
  · rw [heq, miss, emit_eq]
    exact ⟨h, fun _ => rfl, .inr (isAtLastMatch_of_none rfl)⟩
  · rw [heq]
    have hlast := lastMatch_search_of_none hnone
    exact ⟨honward.pattern, fun _ => hlast, .inr (isAtLastMatch_of_none hlast)⟩
  · rwa [heq]

/-! ### Commands -/

/-- The compiler always gives a pattern, and an empty one for the empty query alone. -/
structure Compiles (compile : CompileQuery) : Prop where
  exists_pattern : ∀ query strategy, ∃ pattern, compile query strategy = .ok pattern
  pattern_eq_nil_iff : ∀ {query strategy pattern}, compile query strategy = .ok pattern →
    (pattern = [] ↔ query = [])

namespace IsSound

theorem update (h : Compiles compile) (g : Stage) (query : Text) :
    (g.update compile query).2.IsSound compile := by
  obtain ⟨pattern, hpattern⟩ := h.exists_pattern query g.session.strategy
  by_cases hnil : query = []
  · subst hnil
    rw [update_nil]
    obtain rfl := (h.pattern_eq_nil_iff hpattern).2 rfl
    exact ⟨hpattern, fun _ => rfl, .inr (isAtLastMatch_of_none rfl)⟩
  · rw [update_of_ok hnil hpattern]
    apply isSound_search
    · rw [refreshed, emit_eq]
      exact hpattern
    · rw [refreshed, emit_eq]
      exact fun hempty => hnil ((h.pattern_eq_nil_iff hpattern).1 hempty)

/-- A repetition with a pattern is a search; without one there is no last match. -/
theorem again (h : g.IsSound compile) (direction : Option Direction) :
    (g.again direction).2.IsSound compile := by
  by_cases hnil : g.session.pattern = []
  · rw [again_of_nil direction hnil]
    have hlast := h.lastMatch_nil hnil
    exact ⟨h.pattern, fun _ => hlast, .inr (isAtLastMatch_of_none hlast)⟩
  · rw [again_of_ne_nil direction hnil]
    split_ifs
    · exact isSound_stepPast (g := g.turned direction) h.pattern hnil
    · exact isSound_search (g := g.turned direction) h.pattern hnil

/-- A command that leaves the session open keeps it sound. -/
theorem step (hcompiles : Compiles compile) (h : g.session.closed = false → g.IsSound compile)
    (c : Command) (hopen : (g.step compile c).2.session.closed = false) :
    (g.step compile c).2.IsSound compile := by
  cases hclosed : g.session.closed with
  | true =>
    rw [Stage.step, if_pos hclosed] at hopen ⊢
    exact h hopen
  | false =>
    rw [Stage.step, if_neg (by simp [hclosed])] at hopen ⊢
    cases c with
    | update query => exact update hcompiles g query
    | again direction => exact (h hclosed).again direction
    | toggle => exact update hcompiles _ g.session.query
    | finish =>
      rw [run, close, emit_eq] at hopen
      cases hopen
    | abort =>
      rw [run, close, emit_eq] at hopen
      cases hopen

end IsSound

end Stage

namespace Desk

/-- The desk has one session, which began at `origin` and is sound while it is open. -/
structure HasOne (compile : CompileQuery) (t : Text) (caseless : Bool) (origin : Nat) (d : Desk)
    (session : Session) : Prop where
  sessions : d.sessions = [session]
  text : d.searcher.text = t
  caseless : d.searcher.caseless = caseless
  point_le : d.searcher.point ≤ t.length
  origin : session.origin = origin
  isSound : session.closed = false → (d.stage session).IsSound compile

variable {compile : CompileQuery} {t : Text} {caseless : Bool} {origin : Nat}

theorem HasOne.command (hcompiles : Stage.Compiles compile) {d : Desk} {session : Session}
    (h : d.HasOne compile t caseless origin session) (c : Command) :
    ∃ after, (d.act compile (.command 0 c)).desk.HasOne compile t caseless origin after := by
  obtain ⟨hsessions, rfl, rfl, hpoint, rfl, hsound⟩ := h
  have hkeeps := Stage.Keeps.step compile (d.stage session) c
  rw [act_command compile (by rw [hsessions]; rfl) c, hsessions]
  refine ⟨_, rfl, hkeeps.searcher.text, hkeeps.searcher.caseless,
    hkeeps.searcher.point_le hpoint, hkeeps.origin, ?_⟩
  intro hopen
  obtain ⟨hpattern, hnil, hlast⟩ := Stage.IsSound.step hcompiles hsound c hopen
  exact ⟨hpattern, hnil, hlast⟩

/-- And so does every run of commands. -/
theorem HasOne.run (hcompiles : Stage.Compiles compile) {d : Desk} {session : Session}
    (h : d.HasOne compile t caseless origin session) (commands : List Command) :
    ∃ after,
      (d.run compile (commands.map (.command 0))).HasOne compile t caseless origin after := by
  induction commands generalizing d session with
  | nil => exact ⟨session, h⟩
  | cons c commands ih =>
    obtain ⟨after, hafter⟩ := h.command hcompiles c
    exact ih hafter

theorem hasOne_startSession (hcompiles : Stage.Compiles compile) (point : Int) (caseless : Bool)
    (listener : Option Listener) (id : Text) (direction : Direction) (strategy : Strategy) :
    ((Desk.new (.new t point caseless) listener).startSession id direction strategy).HasOne compile
      t caseless (Searcher.clamp t point)
      (.start id direction strategy (.new t point caseless)) := by
  refine ⟨rfl, rfl, rfl, Searcher.clamp_le_length t point, rfl, fun _ => ?_⟩
  obtain ⟨pattern, hpattern⟩ := hcompiles.exists_pattern [] strategy
  obtain rfl := (hcompiles.pattern_eq_nil_iff hpattern).2 rfl
  exact ⟨hpattern, fun _ => rfl, .inr (Stage.isAtLastMatch_of_none rfl)⟩

end Desk

namespace Engine

/-- After any commands to a session that alone uses its searcher, if it is still open its pattern is
that of its query, empty for the empty query alone, it began at the first point, and the point is in
the text. If it has a last match, this is the searcher's, and the point is its end, or its start
after a search backward, unless the pattern is one that is refused for its excess. -/
theorem session_invariant {settings : Settings} {model : ToneModel}
    {syllables : Option (List Text)} {e : Engine}
    (hbuild : Engine.build settings model syllables = .ok e)
    (hcompile : ∀ query strategy, ∃ pattern, e.compileQuery query strategy = .ok pattern)
    (t : Text) (point : Int) (caseless : Bool) (listener : Option Listener) (id : Text)
    (direction : Direction) (strategy : Strategy) (commands : List Command) :
    let d := ((Desk.new (.new t point caseless) listener).startSession id direction strategy).run
      e.compileQuery (commands.map (.command 0))
    ∃ session, d.sessions = [session] ∧ (session.closed = false →
      e.compileQuery session.query session.strategy = .ok session.pattern ∧
      (session.pattern = [] ↔ session.query = []) ∧
      session.origin = Searcher.clamp t point ∧ d.searcher.point ≤ t.length ∧
      ((∃ excess, prepare caseless session.pattern = .error (.excessivePattern excess)) ∨
        ∀ n, session.lastMatch = some n → ∃ span, d.searcher.matched = some span ∧
          span.start ≤ span.stop ∧ span.stop ≤ t.length ∧ n = d.searcher.point ∧
          n = match session.direction with
            | .forward => span.stop
            | .backward => span.start)) := by
  intro d
  have hcompiles : Stage.Compiles e.compileQuery :=
    ⟨hcompile, pattern_eq_nil_iff (exact_of_build hbuild)⟩
  have hstart : ((Desk.new (.new t point caseless) listener).startSession id direction
      strategy).HasOne e.compileQuery t caseless _ _ :=
    Desk.hasOne_startSession hcompiles point caseless listener id direction strategy
  obtain ⟨session, hone⟩ := hstart.run hcompiles commands
  refine ⟨session, hone.sessions, fun hopen => ?_⟩
  obtain ⟨hpattern, -, hlast⟩ := hone.isSound hopen
  have hnil := pattern_eq_nil_iff (exact_of_build hbuild) hpattern
  refine ⟨hpattern, hnil, hone.origin, hone.point_le, ?_⟩
  rcases hlast with hexcess | hlast
  · rw [Stage.IsExcessive, hone.caseless] at hexcess
    exact .inl hexcess
  · refine .inr fun n hn => ?_
    obtain ⟨span, hmatched, hin, hlanding, hpoint⟩ := hlast n hn
    refine ⟨span, hmatched, hin.start_le, hone.text ▸ hin.stop_le, hpoint, ?_⟩
    rw [hlanding]
    cases session.direction <;> rfl

/-- After a match of `a` in `aa` the query `a{4294967295}` leaves the last match at 1 and the point
at the origin. -/
theorem session_invariant_excess :
    let e : Engine := ⟨.ofTable ⟨[(['m', 'a'], ['m', 'ā'])]⟩, .custom, ⟨true, .pinyin⟩⟩
    let excessive := "a\x7b4294967295\x7d".toList
    let d := ((Desk.new (.new ['a', 'a'] 0 true) none).startSession [] .forward .regexp).run
      e.compileQuery ([.update ['a'], .update excessive].map (.command 0))
    Engine.build ⟨true, .pinyin⟩ .standard (some [['m', 'ā']]) = .ok e ∧
      (∀ query strategy, ∃ pattern, e.compileQuery query strategy = .ok pattern) ∧
      ∃ session, d.sessions = [session] ∧ session.closed = false ∧
        session.lastMatch = some 1 ∧ d.searcher.point = 0 ∧
        ∃ excess, prepare true session.pattern = .error (.excessivePattern excess) := by
  intro e excessive d
  have hbuild : Engine.build ⟨true, .pinyin⟩ .standard (some [['m', 'ā']]) = .ok e := by decide
  have hcompile : ∀ query strategy, ∃ pattern, e.compileQuery query strategy = .ok pattern := by
    intro query strategy
    cases strategy with
    | regexp => exact ⟨query, rfl⟩
    | pinyin =>
      have htable : SyllableTable.IsBuiltFrom ⟨[(['m', 'a'], ['m', 'ā'])]⟩ [['m', 'ā']] :=
        ⟨by decide, by decide⟩
      exact ⟨_, Query.compile_eq_sourceOf htable query⟩
  have hsession : d.sessions =
      [⟨[], .forward, .regexp, 0, excessive, excessive, false, some 1⟩] := by decide
  have hpoint : d.searcher.point = 0 := by decide
  obtain ⟨session, hsessions, hinvariant⟩ := session_invariant hbuild hcompile ['a', 'a'] 0 true
    none [] .forward .regexp [.update ['a'], .update excessive]
  obtain rfl := List.singleton_injective (hsessions.symm.trans hsession)
  obtain ⟨-, -, -, -, hexcess | hlast⟩ := hinvariant rfl
  · exact ⟨hbuild, hcompile, _, hsession, rfl, rfl, hpoint, hexcess⟩
  · obtain ⟨-, -, -, -, hone, -⟩ := hlast 1 rfl
    cases hone.trans hpoint

end Engine

end TonelessPinyin

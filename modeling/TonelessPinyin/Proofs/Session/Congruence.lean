import TonelessPinyin.Proofs.Session.Steps

/-!
Stages that no command tells apart. A relation between stages that the elementary changes respect is
respected by every command, and related stages give the same values.
-/
namespace TonelessPinyin.Stage

/-- Two results with the same value and related stages. -/
structure Lockstep (R : Stage → Stage → Prop) (r r' : Result) : Prop where
  value : r'.1 = r.1
  stage : R r.2 r'.2

/-- Related stages have the same session and a searcher at the same place in the same text. They
stay related when the same is done to both. The cursor need not go just anywhere: a session with a
last match puts it back to the origin, or past an empty match. -/
structure Congruence (R : Stage → Stage → Prop) : Prop where
  session : ∀ {g g'}, R g g' → g'.session = g.session
  text : ∀ {g g'}, R g g' → g'.searcher.text = g.searcher.text
  caseless : ∀ {g g'}, R g g' → g'.searcher.caseless = g.searcher.caseless
  point : ∀ {g g'}, R g g' → g'.searcher.point = g.searcher.point
  isAtEmptyMatch : ∀ {g g'}, R g g' → g'.isAtEmptyMatch = g.isAtEmptyMatch
  withSession : ∀ {g g'}, R g g' → ∀ s : Session, s.origin = g.session.origin →
    s.lastMatch = none ∨ s.lastMatch = g.session.lastMatch →
      R { g with session := s } { g' with session := s }
  setPoint : ∀ {g g'}, R g g' → ∀ n : Int,
    n = g.session.origin ∨ g.session.lastMatch = none ∨ g.isAtEmptyMatch = true →
      R (g.setPoint n) (g'.setPoint n)
  note : ∀ {g g'}, R g g' → ∀ n, R (g.note n) (g'.note n)
  emit : ∀ {g g'}, R g g' → ∀ e, R (g.emit e) (g'.emit e)
  hit : ∀ {g g'}, R g g' → ∀ span, R (g.hit span).2 (g'.hit span).2

namespace Congruence

variable {R : Stage → Stage → Prop} {g g' : Stage}

theorem miss (hR : Congruence R) (h : R g g') (e : Event) :
    Lockstep R (g.miss e) (g'.miss e) := by
  rw [Stage.miss, Stage.miss, hR.session h]
  exact ⟨rfl, hR.emit (hR.withSession h { g.session with lastMatch := none } rfl (.inl rfl)) e⟩

theorem search (hR : Congruence R) (h : R g g') : Lockstep R g.search g'.search := by
  have hsession := hR.session h
  have hlike : g.SearchesLike g' :=
    ⟨by rw [hsession], by rw [hsession], hR.text h, hR.caseless h, hR.point h⟩
  obtain ⟨excess, -, hg, hg'⟩ | ⟨flaw, hg, hg'⟩ | ⟨hg, hg'⟩ | ⟨r, span, -, hg, hg'⟩ :=
    hlike.search_cases
  · rw [hg, hg']
    exact ⟨rfl, h⟩
  · rw [hg, hg']
    exact hR.miss h _
  · rw [hg, hg']
    exact hR.miss (hR.note h _) _
  · rw [hg, hg']
    refine ⟨?_, hR.hit h span⟩
    simp only [Stage.hit, hR.text h, hsession]

theorem compileAndSearch (hR : Congruence R) (h : R g g') (compile : CompileQuery) :
    Lockstep R (g.compileAndSearch compile) (g'.compileAndSearch compile) := by
  rw [Stage.compileAndSearch, Stage.compileAndSearch, hR.session h]
  split
  · exact ⟨rfl, h⟩
  · next pattern _ =>
    have hcompiled := hR.withSession h { g.session with pattern } rfl (.inr rfl)
    exact hR.search (hR.emit (hR.note hcompiled _) _)

theorem update (hR : Congruence R) (h : R g g') (compile : CompileQuery) (query : Text) :
    Lockstep R (g.update compile query) (g'.update compile query) := by
  have hback := hR.setPoint (hR.withSession h { g.session with query } rfl (.inr rfl)) _ (.inl rfl)
  rw [Stage.update, Stage.update, hR.session h]
  split_ifs
  · exact ⟨rfl, hR.withSession hback { g.session with query, pattern := [], lastMatch := none } rfl
      (.inl rfl)⟩
  · exact hR.compileAndSearch hback compile

/-- At an empty match the cursor goes on by one, and it comes back where nothing is found. -/
theorem stepPast (hR : Congruence R) (h : R g g') (hempty : g.isAtEmptyMatch = true) :
    Lockstep R g.stepPast g'.stepPast := by
  have honward := hR.setPoint h (g.searcher.point + 1) (.inr (.inr hempty))
  obtain ⟨hvalue, hstage⟩ := hR.search honward
  rw [Stage.stepPast, Stage.stepPast, hR.point h, hR.session h, hR.point honward]
  split_ifs
  · exact hR.miss honward _
  · cases hsearch : (g.setPoint (g.searcher.point + 1)).search with
    | mk value after =>
      cases hsearch' : (g'.setPoint (g.searcher.point + 1)).search with
      | mk value' after' =>
        rw [hsearch, hsearch'] at hvalue hstage
        obtain rfl : value = value' := hvalue.symm
        rcases value with e | _ | n
        · exact ⟨rfl, hstage⟩
        · have hnone := lastMatch_search_of_none (congrArg Prod.fst hsearch)
          rw [hsearch] at hnone
          exact ⟨rfl, hR.setPoint hstage _ (.inr (.inl hnone))⟩
        · exact ⟨rfl, hstage⟩

theorem again (hR : Congruence R) (h : R g g') (direction : Option Direction) :
    Lockstep R (g.again direction) (g'.again direction) := by
  have hturned : R (g.turned direction) (g'.turned direction) := by
    rw [turned, turned, hR.session h]
    exact hR.withSession h { g.session with direction := _ } rfl (.inr rfl)
  by_cases hnil : g.session.pattern = []
  · rw [again_of_nil direction hnil, again_of_nil direction (by rw [hR.session h, hnil])]
    exact ⟨rfl, hturned⟩
  · rw [again_of_ne_nil direction hnil, again_of_ne_nil direction (by rwa [hR.session h]),
      hR.isAtEmptyMatch h, hR.session h]
    split_ifs with hpast
    · exact hR.stepPast hturned hpast.2
    · exact hR.search hturned

theorem close (hR : Congruence R) (h : R g g') (aborted : Bool) :
    Lockstep R (g.close aborted) (g'.close aborted) := by
  rw [Stage.close, Stage.close, hR.session h, hR.point h]
  exact ⟨rfl, hR.emit (hR.withSession h { g.session with closed := true } rfl (.inr rfl)) _⟩

theorem run (hR : Congruence R) (h : R g g') (compile : CompileQuery) (c : Command) :
    Lockstep R (g.run compile c) (g'.run compile c) := by
  cases c with
  | update query => exact hR.update h compile query
  | again direction => exact hR.again h direction
  | toggle =>
    rw [Stage.run, Stage.run, Stage.toggle, Stage.toggle, hR.session h]
    have hswitched := hR.withSession h { g.session with strategy := g.session.strategy.other } rfl
      (.inr rfl)
    exact hR.update (hR.note hswitched _) compile _
  | finish => exact hR.close h false
  | abort =>
    rw [Stage.run, Stage.run, hR.session h]
    exact hR.close (hR.setPoint h _ (.inl rfl)) true

/-- No command tells related stages apart. -/
theorem step (hR : Congruence R) (h : R g g') (compile : CompileQuery) (c : Command) :
    Lockstep R (g.step compile c) (g'.step compile c) := by
  rw [Stage.step, Stage.step, hR.session h]
  split_ifs
  · exact ⟨rfl, h⟩
  · exact hR.run h compile c

end Congruence

end TonelessPinyin.Stage

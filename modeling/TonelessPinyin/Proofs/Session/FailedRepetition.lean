import TonelessPinyin.Proofs.Session.Repetition

/-!
Repetitions that find nothing. Such a repetition leaves the searcher alone, and the next one finds
nothing either. But where it has stepped past an empty match it forgets this, and the next one finds
the empty match again.
-/
namespace TonelessPinyin

open Pattern

namespace Stage

variable {g g' : Stage} {r : Node} {direction : Option Direction}

/-- The pattern has a match where the cursor is, or is refused for its excess. -/
def stopsHere (g : Stage) : Bool :=
  match prepare g.searcher.caseless g.session.pattern with
  | .ok r => (r.matchAt g.searcher.text.toArray g.searcher.point).isSome
  | .error (.excessivePattern _) => true
  | .error _ => false

/-- A repetition has to step past an empty match where a search stops again. -/
def ReturnsToMatch (g : Stage) (direction : Option Direction) : Prop :=
  direction.getD g.session.direction = .forward ∧ g.isAtEmptyMatch = true ∧
    g.session.pattern ≠ [] ∧ g.stopsHere = true

/-- What fails has not moved the cursor. -/
theorem searcher_search_of_none (h : g.search.1 = .ok none) : g.search.2.searcher = g.searcher := by
  obtain ⟨excess, -, heq⟩ | ⟨flaw, heq⟩ | heq | ⟨r, span, -, heq⟩ := g.search_cases
  · rw [heq]
  · rw [heq, miss, emit_eq]
  · rw [heq, miss, emit_eq]
    rfl
  · rw [heq] at h
    cases h

theorem setPoint_point (hpoint : g.searcher.point ≤ g.searcher.text.length) :
    g.setPoint g.searcher.point = g := by
  unfold setPoint Searcher.setPoint
  rw [Searcher.clamp_of_le hpoint]

theorem stepPast_of_none (hpoint : g.searcher.point ≤ g.searcher.text.length)
    (h : g.stepPast.1 = .ok none) :
    g.stepPast.2.searcher = g.searcher ∧ g.stepPast.2.session.lastMatch = none := by
  obtain ⟨hstay, heq⟩ | ⟨hnone, heq⟩ | ⟨hfound, heq⟩ := g.stepPast_cases
  · rw [heq, miss, emit_eq]
    refine ⟨?_, rfl⟩
    change { g.searcher with point := (g.setPoint (g.searcher.point + 1)).searcher.point } = _
    rw [hstay]
  · rw [heq]
    refine ⟨?_, lastMatch_search_of_none hnone⟩
    change (g.setPoint (g.searcher.point + 1)).search.2.searcher.setPoint g.searcher.point = _
    rw [searcher_search_of_none hnone]
    exact congrArg searcher (setPoint_point hpoint)
  · rw [heq] at h
    exact absurd h hfound

/-- A repetition that finds nothing forgets the last match, if it has searched at all, and leaves
the searcher alone. -/
theorem again_of_none (hpoint : g.searcher.point ≤ g.searcher.text.length)
    (h : (g.again direction).1 = .ok none) :
    (g.again direction).2.searcher = g.searcher ∧
      (g.session.pattern ≠ [] → (g.again direction).2.session.lastMatch = none) := by
  by_cases hnil : g.session.pattern = []
  · rw [again_of_nil direction hnil]
    exact ⟨rfl, fun hne => absurd hnil hne⟩
  · rw [again_of_ne_nil direction hnil] at h ⊢
    split_ifs at h ⊢
    · obtain ⟨hsearcher, hforgotten⟩ := stepPast_of_none (g := g.turned direction) hpoint h
      exact ⟨hsearcher, fun _ => hforgotten⟩
    · exact ⟨searcher_search_of_none h, fun _ => lastMatch_search_of_none h⟩

/-- A search forward finds the match where the cursor is. -/
theorem search_of_stopsHere (hd : g.session.direction = .forward)
    (hpoint : g.searcher.point ≤ g.searcher.text.length) (h : g.stopsHere = true) :
    (∃ excess, g.search.1 = .error (.excessivePattern excess)) ∨
      ∃ stop, g.search.1 = .ok (some stop) ∧
        g.search.2.searcher.matched = some ⟨g.searcher.point, stop⟩ := by
  unfold stopsHere at h
  split at h
  · next r hr =>
    obtain ⟨stop, hstop⟩ := Option.isSome_iff_exists.1 h
    have hmatch : g.searcher.nextMatch r g.session.direction = some ⟨g.searcher.point, stop⟩ := by
      rw [hd]
      exact Node.search_of_matchAt hpoint hstop
    have hland : Searcher.landing .forward ⟨g.searcher.point, stop⟩ ≤ g.searcher.text.length :=
      (Searcher.nextMatch_isIn hmatch).stop_le
    rw [search_of_some hr hmatch]
    refine .inr ⟨stop, ?_, ?_⟩
    · simp only [hit, hd, Searcher.clamp_of_le hland]
      rfl
    · simp only [hit, emit_eq]
  · next excess hexcess =>
    rw [search_of_excessive hexcess]
    exact .inl ⟨excess, rfl⟩
  · cases h

theorem search_of_stepPast_none (hlt : g.searcher.point < g.searcher.text.length)
    (h : g.stepPast.1 = .ok none) : (g.setPoint (g.searcher.point + 1)).search.1 = .ok none := by
  obtain ⟨hstay, -⟩ | ⟨hnone, -⟩ | ⟨hfound, heq⟩ := g.stepPast_cases
  · rw [setPoint_succ_of_lt hlt] at hstay
    omega
  · exact hnone
  · rw [heq] at h
    exact absurd h hfound

theorem nextMatch_of_search_none (hr : prepare g.searcher.caseless g.session.pattern = .ok r)
    (h : g.search.1 = .ok none) : g.searcher.nextMatch r g.session.direction = none := by
  cases hmatch : g.searcher.nextMatch r g.session.direction with
  | none => rfl
  | some span =>
    rw [search_of_some hr hmatch] at h
    cases h

/-- Where a step past an empty match has failed, and no search stops at the cursor, there is no
match ahead. -/
theorem search_of_not_stopsHere (hd : g.session.direction = .forward)
    (hpoint : g.searcher.point ≤ g.searcher.text.length) (h : g.stopsHere = false)
    (hpast : g.stepPast.1 = .ok none) : g.search.1 = .ok none := by
  cases hr : prepare g.searcher.caseless g.session.pattern with
  | error e =>
    obtain ⟨flaw, rfl⟩ | ⟨excess, rfl⟩ := prepare_error_cases hr
    · rw [search_of_invalid hr]
      rfl
    · -- an excess would have stopped it
      unfold stopsHere at h
      rw [hr] at h
      cases h
  | ok r =>
    have hhere : r.matchAt g.searcher.text.toArray g.searcher.point = none := by
      unfold stopsHere at h
      rw [hr] at h
      simpa using h
    -- the step past the empty match has tried all places but the cursor itself
    have hahead : ∀ m, g.searcher.point < m → m ≤ g.searcher.text.length →
        r.matchAt g.searcher.text.toArray m = none := by
      intro m hlt hm
      have hinside := hlt.trans_le hm
      have hnext : (g.setPoint (g.searcher.point + 1)).searcher.nextMatch r g.session.direction =
          none := nextMatch_of_search_none hr (search_of_stepPast_none hinside hpast)
      rw [hd, Searcher.nextMatch, setPoint_succ_of_lt hinside] at hnext
      exact (r.search_eq_none_iff hinside).1 hnext m hlt hm
    have hmatch : g.searcher.nextMatch r g.session.direction = none := by
      rw [hd]
      refine (r.search_eq_none_iff hpoint).2 fun m hle hm => ?_
      rcases hle.eq_or_lt with rfl | hlt
      · exact hhere
      · exact hahead m hlt hm
    rw [search_of_none hr hmatch]
    rfl

/-- A repetition that finds nothing has not found anything at the cursor either, unless the next one
returns there. -/
theorem search_of_again_none (hpoint : g.searcher.point ≤ g.searcher.text.length)
    (hne : g.session.pattern ≠ []) (h : (g.again direction).1 = .ok none)
    (hstays : ¬g.ReturnsToMatch direction) : (g.turned direction).search.1 = .ok none := by
  rw [again_of_ne_nil direction hne] at h
  split_ifs at h with hempty
  · obtain ⟨hforward, hmatched⟩ := hempty
    have hpasses : g.stopsHere = false := by
      rw [Bool.eq_false_iff]
      exact fun hstops => hstays ⟨hforward, hmatched, hne, hstops⟩
    exact search_of_not_stopsHere (g := g.turned direction) hforward hpoint hpasses h
  · exact h

theorem SearchesLike.search_of_none (h : g.SearchesLike g') (hnone : g.search.1 = .ok none) :
    g'.search.1 = .ok none := by
  obtain ⟨excess, -, heq, -⟩ | ⟨flaw, -, heq⟩ | ⟨-, heq⟩ | ⟨r, span, -, heq, -⟩ := h.search_cases
  · rw [heq] at hnone
    cases hnone
  · rw [heq]
    rfl
  · rw [heq]
    rfl
  · rw [heq] at hnone
    cases hnone

/-- Without a last match a repetition is a plain search. -/
theorem again_of_lastMatch_none (hne : g.session.pattern ≠ []) (h : g.session.lastMatch = none) :
    g.again direction = (g.turned direction).search := by
  have hempty : g.isAtEmptyMatch = false := by
    unfold isAtEmptyMatch
    rw [h]
    rfl
  rw [again_of_ne_nil direction hne, if_neg]
  rw [hempty]
  rintro ⟨-, ⟨⟩⟩

/-- The other stage is as a repetition has left this one that has found nothing. -/
structure Fails (direction : Option Direction) (g g' : Stage) : Prop where
  value : (g.again direction).1 = .ok none
  searcher : g'.searcher = g.searcher
  session : g'.session = (g.again direction).2.session

namespace Fails

theorem turned_eq (h : g.Fails direction g') : g'.turned direction = g' := by
  have hdirection : direction.getD g'.session.direction = g'.session.direction := by
    rw [h.session, again_session]
    cases direction
    · rfl
    · rfl
  unfold turned
  rw [hdirection]

theorem pattern_eq (h : g.Fails direction g') : g'.session.pattern = g.session.pattern := by
  rw [h.session, again_session]

theorem again_eq (h : g.Fails direction g') (hpoint : g.searcher.point ≤ g.searcher.text.length)
    (hne : g.session.pattern ≠ []) :
    g'.session.lastMatch = none ∧ g'.again direction = g'.search := by
  have hforgotten : g'.session.lastMatch = none := by
    rw [h.session]
    exact (again_of_none hpoint h.value).2 hne
  refine ⟨hforgotten, ?_⟩
  rw [again_of_lastMatch_none (h.pattern_eq ▸ hne) hforgotten, h.turned_eq]

theorem searchesLike (h : g.Fails direction g') : (g.turned direction).SearchesLike g' := by
  refine ⟨h.pattern_eq, ?_, ?_, ?_, ?_⟩
  · rw [h.session, again_session]
    rfl
  · exact congrArg Searcher.text h.searcher
  · exact congrArg Searcher.caseless h.searcher
  · exact congrArg Searcher.point h.searcher

/-- If the next repetition does not return to an empty match, it finds nothing either. -/
theorem stays (h : g.Fails direction g') (hpoint : g.searcher.point ≤ g.searcher.text.length)
    (hstays : ¬g.ReturnsToMatch direction) :
    (g'.again direction).1 = .ok none ∧ (g'.again direction).2.session = g'.session := by
  by_cases hnil : g.session.pattern = []
  · rw [again_of_nil direction (h.pattern_eq.trans hnil), h.turned_eq]
    exact ⟨rfl, rfl⟩
  · obtain ⟨hforgotten, heq⟩ := h.again_eq hpoint hnil
    have hnone : g'.search.1 = .ok none :=
      h.searchesLike.search_of_none (search_of_again_none hpoint hnil h.value hstays)
    rw [heq]
    refine ⟨hnone, ?_⟩
    rw [search_session, lastMatch_search_of_none hnone, ← hforgotten]

/-- If it returns, it stops at the cursor. -/
theorem returns (h : g.Fails direction g') (hpoint : g.searcher.point ≤ g.searcher.text.length)
    (hreturns : g.ReturnsToMatch direction) :
    (∃ excess, (g'.again direction).1 = .error (.excessivePattern excess)) ∨
      ∃ stop, (g'.again direction).1 = .ok (some stop) ∧
        (g'.again direction).2.searcher.matched = some ⟨g.searcher.point, stop⟩ := by
  obtain ⟨hforward, -, hne, hstops⟩ := hreturns
  have hstops' : g'.stopsHere = true := by
    unfold stopsHere at hstops ⊢
    rwa [h.searcher, h.pattern_eq]
  have hd : g'.session.direction = .forward := h.searchesLike.direction.trans hforward
  have hpoint' : g'.searcher.point ≤ g'.searcher.text.length := by rwa [h.searcher]
  rw [(h.again_eq hpoint hne).2, ← h.searcher]
  exact search_of_stopsHere hd hpoint' hstops'

end Fails

end Stage

namespace Desk

variable {t : Text} {i : Nat} {session : Session} {d : Desk} {point : Int} {caseless : Bool}
  {listener : Option Listener}

/-- A repetition that finds nothing leaves the searcher alone, and another one like it finds nothing
and changes nothing at all. But where the first has stepped past an empty match, and a search stops
there, the second one returns: it finds the match at the cursor, or raises the pattern's excess. -/
theorem failed_repetition_stays_or_returns (h : Reachable t point caseless listener d)
    (hsession : d.sessions[i]? = some session) (hopen : session.closed = false)
    (compile : CompileQuery) (direction : Option Direction)
    (hnone : (d.act compile (.command i (.again direction))).value = .ok none) :
    let after := (d.act compile (.command i (.again direction))).desk
    let second := after.act compile (.command i (.again direction))
    after.searcher = d.searcher ∧
      (¬(d.stage session).ReturnsToMatch direction →
        second.value = .ok none ∧ second.desk = after) ∧
      ((d.stage session).ReturnsToMatch direction →
        (∃ excess, second.value = .error (.excessivePattern excess)) ∨
          ∃ stop, second.value = .ok (some stop) ∧
            second.desk.searcher.matched = some ⟨d.searcher.point, stop⟩) := by
  intro after second
  have hover := h.isOver
  have hpoint : d.searcher.point ≤ d.searcher.text.length := hover.text ▸ hover.point_le
  let g := d.stage session
  let session' := (g.again direction).2.session
  obtain ⟨hvalue, hafter⟩ := act_again hsession hopen compile direction
  have hfound : (g.again direction).1 = .ok none := hvalue.symm.trans hnone
  have hsearcher : after.searcher = d.searcher :=
    (congrArg Desk.searcher hafter).trans (Stage.again_of_none hpoint hfound).1
  have hsessions : after.sessions = d.sessions.set i session' := congrArg Desk.sessions hafter
  have hsession' : after.sessions[i]? = some session' := by
    rw [hsessions]
    exact List.getElem?_set_self (List.getElem?_eq_some_iff.1 hsession).1
  have hopen' : session'.closed = false := (Stage.closed_again g direction).trans hopen
  have hfails : g.Fails direction (after.stage session') := ⟨hfound, hsearcher, rfl⟩
  obtain ⟨hvalue', hsecond⟩ := act_again hsession' hopen' compile direction
  refine ⟨hsearcher, fun hstays => ?_, fun hreturns => ?_⟩
  · obtain ⟨hagain, hsame⟩ := hfails.stays hpoint hstays
    have hpoint' : after.searcher.point ≤ after.searcher.text.length := by rwa [hsearcher]
    have hsearcher' := (Stage.again_of_none (g := after.stage session') hpoint' hagain).1
    refine ⟨hvalue'.trans hagain, hsecond.trans ?_⟩
    rw [hsearcher', hsame, hsessions, List.set_set, ← hsessions]
  · rw [hvalue', hsecond]
    exact hfails.returns hpoint hreturns

/-- In `a` a blank has an empty match on both sides of the letter. At the end of the text a
repetition finds nothing, and the next one finds the match there again. -/
theorem failed_repetition_stays_or_returns_blank :
    let e : Engine := ⟨.ofTable ⟨[(['a'], ['ā'])]⟩, .custom, ⟨true, .pinyin⟩⟩
    let pattern : Text := ['\\', 's', '*']
    let d := (Desk.new (.new ['a'] 0 true) none).run e.compileQuery
      [.start [] .forward .pinyin, .command 0 (.update [' ']), .command 0 (.again none)]
    let session : Session := ⟨[], .forward, .pinyin, 0, [' '], pattern, false, some 1⟩
    let first := d.act e.compileQuery (.command 0 (.again none))
    let second := first.desk.act e.compileQuery (.command 0 (.again none))
    Reachable ['a'] 0 true none d ∧ d.sessions[0]? = some session ∧ session.closed = false ∧
      first.value = .ok none ∧ (d.stage session).ReturnsToMatch none ∧
      second.value = .ok (some 1) ∧ second.desk.searcher.matched = some ⟨1, 1⟩ := by
  intro e pattern d session first second
  have hreachable : Reachable ['a'] 0 true none d :=
    .act e.compileQuery (.act e.compileQuery (.act e.compileQuery .new trivial) trivial) trivial
  have hsession : d.sessions[0]? = some session := by decide
  have hplace : d.searcher.point = 1 := by decide
  have hfirst : first.value = .ok none := by decide
  have hsecond : second.value = .ok (some 1) := by decide
  have hreturns : (d.stage session).ReturnsToMatch none := ⟨rfl, by decide, by decide, by decide⟩
  obtain ⟨-, -, hstop⟩ :=
    failed_repetition_stays_or_returns hreachable hsession rfl e.compileQuery none hfirst
  refine ⟨hreachable, hsession, rfl, hfirst, hreturns, hsecond, ?_⟩
  obtain ⟨excess, hraised⟩ | ⟨stop, hfound, hmatched⟩ := hstop hreturns
  · exact absurd (hraised.symm.trans hsecond) (by simp)
  · obtain rfl := Option.some.inj (Except.ok.inj (hfound.symm.trans hsecond))
    rw [hplace] at hmatched
    simp only [second, first]
    exact hmatched

end Desk

end TonelessPinyin

import TonelessPinyin.Proofs.Query.Head
import TonelessPinyin.Proofs.Session.Runs

/-!
A new query does what it would do if nothing had been done before. Only a pattern that is refused
for its excess keeps something: the session's last match.
-/
namespace TonelessPinyin

open Pattern

namespace Stage

/-- The stage as if nothing had been found on it. -/
def forget (g : Stage) : Stage :=
  { g with
    session := { g.session with lastMatch := none }
    searcher := { g.searcher with matched := none } }

/-- The stage's session and searcher begun anew. -/
def anew (g : Stage) : Stage :=
  let searcher := Searcher.new g.searcher.text g.session.origin g.searcher.caseless
  ⟨.start g.session.id g.session.direction g.session.strategy searcher, searcher, g.listener, []⟩

theorem anew_refreshed (g : Stage) (hopen : g.session.closed = false) (hquiet : g.notices = [])
    (horigin : g.session.origin ≤ g.searcher.text.length) (query pattern : Text) :
    g.anew.refreshed query pattern = (g.refreshed query pattern).forget := by
  have hclamp := Searcher.clamp_of_le horigin
  simp [refreshed, emit_eq, note, setPoint, forget, anew, Session.start, Searcher.new,
    Searcher.setPoint, hclamp, hopen, hquiet]

/-- The two results show the same, apart from the last match. -/
structure Agree (r r' : Result) : Prop where
  value : r.1 = r'.1
  notices : r.2.notices = r'.2.notices
  point : r.2.searcher.point = r'.2.searcher.point

/-- What has been found before changes nothing in a search. Only a pattern that is refused for its
excess leaves everything as it was, the last match too. -/
theorem search_forget (g : Stage) :
    Agree g.search g.forget.search ∧
      ((∃ value, g.search.1 = .ok value) ∧ g.search.2.session = g.forget.search.2.session ∨
        ∃ excess, g.search = (.error (.excessivePattern excess), g) ∧
          prepare g.searcher.caseless g.session.pattern = .error (.excessivePattern excess) ∧
          g.forget.search = (.error (.excessivePattern excess), g.forget)) := by
  have hlike : g.SearchesLike g.forget := ⟨rfl, rfl, rfl, rfl, rfl⟩
  obtain ⟨excess, hexcess, h, h'⟩ | ⟨flaw, h, h'⟩ | ⟨h, h'⟩ | ⟨r, span, -, h, h'⟩ :=
    hlike.search_cases
  · rw [h, h']
    exact ⟨⟨rfl, rfl, rfl⟩, .inr ⟨excess, rfl, hexcess, rfl⟩⟩
  · rw [h, h']
    simp only [miss, emit_eq]
    exact ⟨⟨rfl, rfl, rfl⟩, .inl ⟨⟨none, rfl⟩, rfl⟩⟩
  · rw [h, h']
    simp only [miss, emit_eq]
    exact ⟨⟨rfl, rfl, rfl⟩, .inl ⟨⟨none, rfl⟩, rfl⟩⟩
  · rw [h, h']
    simp only [hit, emit_eq]
    exact ⟨⟨rfl, rfl, rfl⟩, .inl ⟨⟨_, rfl⟩, rfl⟩⟩

/-- A new query that has a pattern shows what it shows when the session is begun anew. -/
theorem update_anew {compile : CompileQuery} {g : Stage} {query pattern : Text}
    (hopen : g.session.closed = false) (hquiet : g.notices = [])
    (horigin : g.session.origin ≤ g.searcher.text.length)
    (h : compile query g.session.strategy = .ok pattern) :
    let here := g.update compile query
    let there := g.anew.update compile query
    Agree here there ∧
      ((∃ value, here.1 = .ok value) ∧ here.2.session = there.2.session ∨
        ∃ excess, here.1 = .error (.excessivePattern excess) ∧
          prepare g.searcher.caseless pattern = .error (.excessivePattern excess) ∧
          here.2.session = { there.2.session with lastMatch := g.session.lastMatch } ∧
          there.2.session.lastMatch = none) := by
  intro here there
  have hclamp := Searcher.clamp_of_le horigin
  by_cases hnil : query = []
  · subst hnil
    have horigin_anew : g.anew.session.origin = g.session.origin := hclamp
    have hpoint : here.2.searcher.point = there.2.searcher.point :=
      congrArg (fun n : Nat => Searcher.clamp g.searcher.text n) horigin_anew.symm
    refine ⟨⟨rfl, hquiet, hpoint⟩, .inl ⟨⟨none, rfl⟩, ?_⟩⟩
    simp only [here, there, update_nil, setPoint, anew, Session.start, Searcher.new, hclamp, hopen]
  · have hhere : here = (g.refreshed query pattern).search := update_of_ok hnil h
    have hthere : there = (g.refreshed query pattern).forget.search := by
      rw [← anew_refreshed g hopen hquiet horigin]
      exact update_of_ok hnil h
    rw [hhere, hthere]
    obtain ⟨hagree, hok | ⟨excess, hexcess, hprepare, hforget⟩⟩ :=
      search_forget (g.refreshed query pattern)
    · exact ⟨hagree, .inl hok⟩
    · refine ⟨hagree, .inr ⟨excess, ?_⟩⟩
      rw [hexcess, hforget]
      rw [refreshed, emit_eq] at hprepare ⊢
      exact ⟨rfl, hprepare, rfl, rfl⟩

end Stage

namespace Desk

/-- The session begun anew, over a new searcher at the point where it began. -/
def anew (t : Text) (caseless : Bool) (listener : Option Listener) (session : Session) : Desk :=
  (Desk.new (.new t session.origin caseless) listener).startSession session.id session.direction
    session.strategy

variable {t : Text} {point : Int} {caseless : Bool} {listener : Option Listener} {d : Desk}

/-- Whatever has been done with any sessions over a searcher, a new query that has a pattern gives
the value, the notices and the point that it gives when its session is begun anew, and leaves the
same session. Only a pattern refused for its excess leaves the last match as it was. -/
theorem update_forgets_history (hd : Reachable t point caseless listener d) {i : Nat}
    {session : Session} (hsession : d.sessions[i]? = some session)
    (hopen : session.closed = false) {compile : CompileQuery} {query pattern : Text}
    (hcompile : compile query session.strategy = .ok pattern) :
    let here := d.act compile (.command i (.update query))
    let there := (anew t caseless listener session).act compile (.command 0 (.update query))
    here.value = there.value ∧ here.notices = there.notices ∧
      here.desk.searcher.point = there.desk.searcher.point ∧
      ∃ after fresh, here.desk.sessions[i]? = some after ∧ there.desk.sessions[0]? = some fresh ∧
        ((∃ value, here.value = .ok value) ∧ after = fresh ∨
          ∃ excess, here.value = .error (.excessivePattern excess) ∧
            prepare caseless pattern = .error (.excessivePattern excess) ∧
            after = { fresh with lastMatch := session.lastMatch } ∧ fresh.lastMatch = none) := by
  intro here there
  obtain ⟨rfl, rfl, rfl, -, horigin⟩ := hd.isOver
  let g : Stage := ⟨session, d.searcher, d.listener, []⟩
  have hhere : here = _ := act_of_open compile hsession hopen (.update query)
  have hthere : there = _ := act_of_open (d := anew _ _ _ session) compile rfl rfl (.update query)
  obtain ⟨⟨hvalue, hnotices, hpoint⟩, hsessions⟩ := Stage.update_anew (g := g) hopen rfl
    (horigin session (List.mem_of_getElem? hsession)) hcompile
  have hlt : i < d.sessions.length := (List.getElem?_eq_some_iff.1 hsession).1
  rw [hhere, hthere]
  exact ⟨hvalue, hnotices, hpoint, _, _, List.getElem?_set_self hlt, rfl, hsessions⟩

/-- After a match of `a` the query `a{4294967295}` keeps its place as the last match. -/
theorem update_forgets_history_excess :
    let e : Engine := ⟨.ofTable ⟨[(['m', 'a'], ['m', 'ā'])]⟩, .custom, ⟨true, .pinyin⟩⟩
    let query := "a\x7b4294967295\x7d".toList
    let session : Session := ⟨[], .forward, .regexp, 0, ['a'], ['a'], false, some 1⟩
    let d := ((e.openSession none [] ['a', 'a'] 0 .forward (some .regexp)).act e.compileQuery
      (.command 0 (.update ['a']))).desk
    let fresh := anew ['a', 'a'] true none session
    Reachable ['a', 'a'] 0 true none d ∧ d.sessions[0]? = some session ∧
      session.closed = false ∧ e.compileQuery query session.strategy = .ok query ∧
      (d.act e.compileQuery (.command 0 (.update query))).value =
        .error (.excessivePattern .repetitions) ∧
      ∃ after afresh,
        (d.act e.compileQuery (.command 0 (.update query))).desk.sessions[0]? = some after ∧
        (fresh.act e.compileQuery (.command 0 (.update query))).desk.sessions[0]? = some afresh ∧
        after.lastMatch = some 1 ∧ afresh.lastMatch = none := by
  intro e query session d fresh
  have hd : Reachable ['a', 'a'] 0 true none d :=
    .act e.compileQuery (.act e.compileQuery (a := .start [] .forward .regexp) .new trivial) trivial
  have hsession : d.sessions[0]? = some session := by decide
  have hcompile : e.compileQuery query session.strategy = .ok query := rfl
  have hvalue : (d.act e.compileQuery (.command 0 (.update query))).value =
      .error (.excessivePattern .repetitions) := by
    decide
  refine ⟨hd, hsession, rfl, hcompile, hvalue, ?_⟩
  obtain ⟨-, -, -, after, afresh, hafter, hafresh, ⟨⟨value, hok⟩, -⟩ | ⟨-, -, -, rfl, hlast⟩⟩ :=
    update_forgets_history hd hsession rfl hcompile
  · cases hvalue.symm.trans hok
  · exact ⟨_, afresh, hafter, hafresh, rfl, hlast⟩

end Desk

end TonelessPinyin

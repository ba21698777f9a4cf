import TonelessPinyin.Proofs.Query.Empty
import TonelessPinyin.Proofs.Query.Validity
import TonelessPinyin.Proofs.Session.Runs

/-!
Which sessions refuse a pattern for a flaw. A session has the pattern of its query, or a query that
has none; in the second case it keeps the pattern that it had. So a session that searches for pinyin
refuses a pattern only when it repeats a search after a query that could not be compiled.
-/
namespace TonelessPinyin

open Pattern

/-- The session has the pattern of its query, if the query has one. -/
def Session.IsCurrent (compile : CompileQuery) (s : Session) : Prop :=
  ∀ pattern, compile s.query s.strategy = .ok pattern → s.pattern = pattern

namespace Stage

variable {g : Stage} {compile : CompileQuery} {pattern : Text} {flaw : Flaw}

/-! ## Refused patterns -/

/-- The listener has been told that the pattern is refused for the flaw. -/
def Refuses (g : Stage) (pattern : Text) (flaw : Flaw) : Prop :=
  .event (.invalidPattern pattern flaw) ∈ g.notices

theorem eq_of_event_mem_heard {listener : Option Listener} {e e' : Event}
    (h : .event e ∈ heard listener e') : e = e' := by
  rw [heard.eq_def] at h
  split at h
  · cases h
  · split_ifs at h <;> simpa using h

theorem refuses_emit {e : Event} (h : (g.emit e).Refuses pattern flaw) :
    g.Refuses pattern flaw ∨ .invalidPattern pattern flaw = e := by
  rw [Refuses, emit_eq] at h
  exact (List.mem_append.1 h).imp_right eq_of_event_mem_heard

theorem refuses_note {n : Notice} (hn : ∀ e, .event e ≠ n) (h : (g.note n).Refuses pattern flaw) :
    g.Refuses pattern flaw := by
  rcases List.mem_append.1 h with h | h
  · exact h
  · exact absurd (List.mem_singleton.1 h) (hn _)

theorem refuses_miss {e : Event} (h : (g.miss e).2.Refuses pattern flaw) :
    g.Refuses pattern flaw ∨ .invalidPattern pattern flaw = e :=
  refuses_emit (g := { g with session := { g.session with lastMatch := none } }) h

/-- A pattern that can be read is not refused. -/
theorem refuses_search_of_ok {r : Node} (hr : prepare g.searcher.caseless g.session.pattern = .ok r)
    (h : g.search.2.Refuses pattern flaw) : g.Refuses pattern flaw := by
  cases hmatch : g.searcher.nextMatch r g.session.direction with
  | none =>
    rw [search_of_none hr hmatch] at h
    rcases refuses_miss h with h | h
    · exact refuses_note (by simp) h
    · cases h
  | some span =>
    rw [search_of_some hr hmatch, hit] at h
    rcases refuses_emit h with h | h
    · exact h
    · cases h

/-- What a search refuses is the session's pattern, and this cannot be read. -/
theorem refuses_search (h : g.search.2.Refuses pattern flaw) (hquiet : ¬g.Refuses pattern flaw) :
    pattern = g.session.pattern ∧ ∀ r, prepare g.searcher.caseless pattern ≠ .ok r := by
  have hpattern : pattern = g.session.pattern := by
    obtain ⟨excess, -, heq⟩ | ⟨found, heq⟩ | heq | ⟨r, span, -, heq⟩ := g.search_cases
    · rw [heq] at h
      exact absurd h hquiet
    · rw [heq] at h
      rcases refuses_miss h with h | h
      · exact absurd h hquiet
      · exact (Event.invalidPattern.inj h).1
    · rw [heq] at h
      rcases refuses_miss h with h | h
      · exact absurd (refuses_note (by simp) h) hquiet
      · cases h
    · rw [heq, hit] at h
      rcases refuses_emit h with h | h
      · exact absurd h hquiet
      · cases h
  refine ⟨hpattern, fun r hr => hquiet ?_⟩
  exact refuses_search_of_ok (hpattern ▸ hr) h

theorem refuses_stepPast (h : g.stepPast.2.Refuses pattern flaw) (hquiet : ¬g.Refuses pattern flaw) :
    pattern = g.session.pattern ∧ ∀ r, prepare g.searcher.caseless pattern ≠ .ok r := by
  have honward (h : (g.setPoint (g.searcher.point + 1)).search.2.Refuses pattern flaw) :=
    refuses_search h hquiet
  obtain ⟨-, heq⟩ | ⟨-, heq⟩ | ⟨-, heq⟩ := g.stepPast_cases
  · rw [heq] at h
    rcases refuses_miss h with h | h
    · exact absurd h hquiet
    · cases h
  · rw [heq] at h
    exact honward h
  · rw [heq] at h
    exact honward h

theorem refuses_again {direction : Option Direction}
    (h : (g.again direction).2.Refuses pattern flaw) (hquiet : ¬g.Refuses pattern flaw) :
    pattern = g.session.pattern ∧ ∀ r, prepare g.searcher.caseless pattern ≠ .ok r := by
  by_cases hnil : g.session.pattern = []
  · rw [again_of_nil direction hnil] at h
    exact absurd h hquiet
  · rw [again_of_ne_nil direction hnil] at h
    split_ifs at h
    · exact refuses_stepPast (g := g.turned direction) h hquiet
    · exact refuses_search (g := g.turned direction) h hquiet

/-- A new query whose pattern is refused has this pattern. -/
theorem refuses_update {query : Text} (h : (g.update compile query).2.Refuses pattern flaw)
    (hquiet : ¬g.Refuses pattern flaw) :
    compile query g.session.strategy = .ok pattern ∧
      ∀ r, prepare g.searcher.caseless pattern ≠ .ok r := by
  by_cases hnil : query = []
  · subst hnil
    rw [update_nil] at h
    exact absurd h hquiet
  · cases hcompile : compile query g.session.strategy with
    | error e =>
      rw [update_of_error hnil hcompile] at h
      exact absurd h hquiet
    | ok found =>
      have hfresh : ¬(g.refreshed query found).Refuses pattern flaw := by
        intro hfresh
        rcases refuses_emit hfresh with hfresh | hfresh
        · exact hquiet (refuses_note (by simp) hfresh)
        · cases hfresh
      rw [update_of_ok hnil hcompile] at h
      obtain ⟨hpattern, hread⟩ := refuses_search h hfresh
      rw [refreshed, emit_eq] at hpattern hread
      obtain rfl : pattern = found := hpattern
      exact ⟨rfl, hread⟩

/-! ## What commands leave of a session -/

theorem stepPast_session (g : Stage) :
    g.stepPast.2.session = { g.session with lastMatch := g.stepPast.2.session.lastMatch } := by
  have honward := search_session (g.setPoint (g.searcher.point + 1))
  obtain ⟨-, heq⟩ | ⟨-, heq⟩ | ⟨-, heq⟩ := g.stepPast_cases
  · rw [heq, miss, emit_eq]
    rfl
  · rw [heq]
    exact honward
  · rw [heq]
    exact honward

/-- A repetition changes only the direction and the last match. -/
theorem again_session (g : Stage) (direction : Option Direction) :
    (g.again direction).2.session =
      { g.session with
        direction := direction.getD g.session.direction
        lastMatch := (g.again direction).2.session.lastMatch } := by
  by_cases hnil : g.session.pattern = []
  · rw [again_of_nil direction hnil]
    rfl
  · rw [again_of_ne_nil direction hnil]
    split_ifs
    · exact stepPast_session (g.turned direction)
    · exact search_session (g.turned direction)

theorem update_asks (compile : CompileQuery) (g : Stage) (query : Text) :
    (g.update compile query).2.session.query = query ∧
      (g.update compile query).2.session.strategy = g.session.strategy := by
  by_cases hnil : query = []
  · rw [hnil, update_nil]
    exact ⟨rfl, rfl⟩
  · cases hcompile : compile query g.session.strategy with
    | error e =>
      rw [update_of_error hnil hcompile]
      exact ⟨rfl, rfl⟩
    | ok pattern =>
      rw [update_of_ok hnil hcompile, search_session, refreshed, emit_eq]
      exact ⟨rfl, rfl⟩

/-- Whatever pattern there was, after a new query it is that of the query, if this has one. -/
theorem isCurrent_update (hnil : ∀ strategy, compile [] strategy = .ok []) (g : Stage)
    (query : Text) : (g.update compile query).2.session.IsCurrent compile := by
  intro pattern hpattern
  by_cases hempty : query = []
  · subst hempty
    rw [update_nil] at hpattern ⊢
    exact Except.ok.inj ((hnil g.session.strategy).symm.trans hpattern)
  · cases hcompile : compile query g.session.strategy with
    | error e =>
      rw [update_of_error hempty hcompile] at hpattern
      cases hcompile.symm.trans hpattern
    | ok found =>
      rw [update_of_ok hempty hcompile, search_session, refreshed, emit_eq] at hpattern ⊢
      exact Except.ok.inj (hcompile.symm.trans hpattern)

theorem isCurrent_step (hnil : ∀ strategy, compile [] strategy = .ok [])
    (h : g.session.IsCurrent compile) (c : Command) :
    (g.step compile c).2.session.IsCurrent compile := by
  rw [step]
  split_ifs
  · exact h
  · cases c with
    | update query => exact isCurrent_update hnil g query
    | again direction =>
      rw [run, again_session]
      exact h
    | toggle => exact isCurrent_update hnil _ g.session.query
    | finish =>
      rw [run_of_closes compile g (c := .finish) trivial]
      exact h
    | abort =>
      rw [run_of_closes compile g (c := .abort) trivial]
      exact h

/-- A command that refuses a pattern has it from the session's query, or it is a repetition and has
found it in the session. -/
theorem refuses_step {c : Command} (h : (g.step compile c).2.Refuses pattern flaw)
    (hquiet : ¬g.Refuses pattern flaw) :
    let after := (g.step compile c).2.session
    (∀ r, prepare g.searcher.caseless pattern ≠ .ok r) ∧
      (compile after.query after.strategy = .ok pattern ∨
        (∃ direction, c = .again direction) ∧ pattern = after.pattern) := by
  dsimp only
  rw [step] at h ⊢
  split_ifs at h ⊢
  · exact absurd h hquiet
  · have hasked {g' : Stage} {query : Text}
        (h : compile query g'.session.strategy = .ok pattern) :
        compile (g'.update compile query).2.session.query
          (g'.update compile query).2.session.strategy = .ok pattern := by
      obtain ⟨hquery, hstrategy⟩ := update_asks compile g' query
      rwa [hquery, hstrategy]
    cases c with
    | update query =>
      obtain ⟨hpattern, hread⟩ := refuses_update h hquiet
      exact ⟨hread, .inl (hasked hpattern)⟩
    | again direction =>
      obtain ⟨hpattern, hread⟩ := refuses_again h hquiet
      refine ⟨hread, .inr ⟨⟨direction, rfl⟩, ?_⟩⟩
      rw [run, again_session]
      exact hpattern
    | toggle =>
      let switched : Stage :=
        { g with session := { g.session with strategy := g.session.strategy.other } }
      have hswitched : ¬(switched.note (.switched switched.session.strategy)).Refuses pattern flaw :=
        fun h => hquiet (refuses_note (by simp) h)
      obtain ⟨hpattern, hread⟩ := refuses_update h hswitched
      exact ⟨hread, .inl (hasked hpattern)⟩
    | finish =>
      rcases refuses_emit h with h | h
      · exact absurd h hquiet
      · cases h
    | abort =>
      rcases refuses_emit h with h | h
      · exact absurd h hquiet
      · cases h

end Stage

/-! ## Runs -/

namespace Desk

variable {compile : CompileQuery} {d : Desk}

/-- Every session has the pattern of its query, if the query has one. -/
def IsCurrent (compile : CompileQuery) (d : Desk) : Prop :=
  ∀ s ∈ d.sessions, s.IsCurrent compile

/-- One action keeps the sessions so. -/
theorem IsCurrent.act (hnil : ∀ strategy, compile [] strategy = .ok []) (h : d.IsCurrent compile)
    (a : Action) : (d.act compile a).desk.IsCurrent compile := by
  cases a with
  | command i c =>
    cases hsession : d.sessions[i]? with
    | none => simpa only [Desk.act, command, hsession] using h
    | some session =>
      have hcurrent : session.IsCurrent compile := h session (List.mem_of_getElem? hsession)
      rw [act_command compile hsession]
      intro s hs
      rcases List.mem_or_eq_of_mem_set hs with hs | rfl
      · exact h s hs
      · exact Stage.isCurrent_step (g := d.stage session) hnil hcurrent c
  | start id direction strategy =>
    intro s hs
    rcases List.mem_append.1 hs with hs | hs
    · exact h s hs
    · obtain rfl := List.mem_singleton.1 hs
      intro pattern hpattern
      exact Except.ok.inj ((hnil strategy).symm.trans hpattern)
  | setPoint n => exact h
  | setText t => exact h
  | search direction a => exact h

/-- And so does every run. -/
theorem IsCurrent.run (hnil : ∀ strategy, compile [] strategy = .ok []) (h : d.IsCurrent compile)
    (actions : List Action) : (d.run compile actions).IsCurrent compile := by
  induction actions generalizing d with
  | nil => exact h
  | cons a actions ih => exact ih (h.act hnil a)

/-- A repetition leaves the query, the strategy and the pattern, so if it refuses a pattern that its
session has not from elsewhere, this is the pattern of the query. -/
theorem refuses_command {i : Nat} {session : Session} (hsession : d.sessions[i]? = some session)
    (hcurrent : d.IsCurrent compile) (hnil : ∀ strategy, compile [] strategy = .ok [])
    {c : Command} {pattern : Text} {flaw : Flaw}
    (h : .event (.invalidPattern pattern flaw) ∈ (d.act compile (.command i c)).notices) :
    ∃ after, (d.act compile (.command i c)).desk.sessions[i]? = some after ∧
      (∀ r, prepare d.searcher.caseless pattern ≠ .ok r) ∧
      (compile after.query after.strategy = .ok pattern ∨
        (∃ direction, c = .again direction) ∧ pattern = after.pattern ∧
          ∃ error, compile after.query after.strategy = .error error) := by
  have hlt : i < d.sessions.length := (List.getElem?_eq_some_iff.1 hsession).1
  rw [act_command compile hsession] at h ⊢
  obtain ⟨hread, horigin⟩ := Stage.refuses_step h (by simp [Stage.Refuses])
  refine ⟨_, List.getElem?_set_self hlt, hread, ?_⟩
  have hafter := Stage.isCurrent_step (g := d.stage session) hnil
    (hcurrent session (List.mem_of_getElem? hsession)) c
  rcases horigin with hcompile | ⟨hagain, hpattern⟩
  · exact .inl hcompile
  · cases hcompile : compile _ _ with
    | error error => exact .inr ⟨hagain, hpattern, error, rfl⟩
    | ok found =>
      rw [hpattern, hafter found hcompile]
      exact .inl rfl

end Desk

namespace Engine

/-- Over any table, any tone model and the standard vowel classes every pattern of a pinyin query
can be read, with and without regard to case. After any actions from a new searcher on, a command to
a session that then searches for pinyin refuses a pattern for a flaw only if it is a repetition and
the session's query has no pattern: the one refused was there before. -/
theorem pinyin_patterns_valid {e : Engine} (hexact : e.compiler.exact = .exact)
    (hrelaxed : e.compiler.relaxed = .relaxed) :
    (∀ query pattern, e.compile query (some .pinyin) = .ok pattern →
      ∀ caseless, ∃ r, prepare caseless pattern = .ok r) ∧
    ∀ (t : Text) (point : Int) (caseless : Bool) (listener : Option Listener)
      (actions : List Desk.Action) (i : Nat) (c : Command) (after : Session) (pattern : Text)
      (flaw : Flaw),
      let d := (Desk.new (.new t point caseless) listener).run e.compileQuery actions
      let o := d.act e.compileQuery (.command i c)
      o.desk.sessions[i]? = some after → after.strategy = .pinyin →
      .event (.invalidPattern pattern flaw) ∈ o.notices →
        (∃ direction, c = .again direction) ∧ pattern = after.pattern ∧
          ∃ error, e.compile after.query (some .pinyin) = .error error := by
  have hvalid : ∀ query pattern, e.compile query (some .pinyin) = .ok pattern →
      ∀ caseless, ∃ r, prepare caseless pattern = .ok r :=
    fun query pattern h caseless => Compiler.prepare_of_compile hexact hrelaxed h caseless
  refine ⟨hvalid, ?_⟩
  intro t point caseless listener actions i c after pattern flaw d o hafter hpinyin htold
  have hnil : ∀ strategy, e.compileQuery [] strategy = .ok [] := e.compile_nil
  have hcurrent : d.IsCurrent e.compileQuery :=
    Desk.IsCurrent.run hnil (by simp [Desk.IsCurrent, Desk.new]) actions
  cases hsession : d.sessions[i]? with
  | none =>
    have hquiet : o.notices = [] := by simp only [o, Desk.act, Desk.command, hsession]
    simp [hquiet] at htold
  | some session =>
    obtain ⟨found, hfound, hread, horigin⟩ := Desk.refuses_command hsession hcurrent hnil htold
    obtain rfl : found = after := Option.some.inj (hfound.symm.trans hafter)
    rw [hpinyin] at horigin
    -- the pattern of a pinyin query can be read, so it is not this one that is refused
    rcases horigin with hcompile | horigin
    · obtain ⟨r, hr⟩ := hvalid _ _ hcompile d.searcher.caseless
      exact absurd hr (hread r)
    · exact horigin

/-- Over the syllable `ā\` the regexp query `a (` is refused. Switched to pinyin it has no pattern,
and a repetition refuses it once more. -/
theorem pinyin_patterns_valid_backslash :
    let e : Engine := ⟨.ofTable ⟨[(['a', '\\'], ['ā', '\\'])]⟩, .custom, ⟨true, .pinyin⟩⟩
    let query := ['a', ' ', '(']
    let actions : List Desk.Action :=
      [.start [] .forward .regexp, .command 0 (.update query), .command 0 .toggle]
    let d := (Desk.new (.new query 0 true) (some fun _ => true)).run e.compileQuery actions
    let o := d.act e.compileQuery (.command 0 (.again none))
    let after : Session := ⟨[], .forward, .pinyin, 0, query, query, false, none⟩
    e.compiler.exact = .exact ∧ e.compiler.relaxed = .relaxed ∧
      o.desk.sessions[0]? = some after ∧
      o.notices = [.event (.invalidPattern query ⟨.unclosedGroup, some 2⟩)] ∧
      ∃ error, e.compile query (some .pinyin) = .error error := by
  intro e query actions d o after
  have hafter : o.desk.sessions[0]? = some after := by decide
  have htold : o.notices = [.event (.invalidPattern query ⟨.unclosedGroup, some 2⟩)] := by decide
  obtain ⟨-, honly⟩ := pinyin_patterns_valid (e := e) rfl rfl
  obtain ⟨-, -, herror⟩ := honly query 0 true (some fun _ => true) actions 0 (.again none) after
    query _ hafter rfl (htold ▸ List.mem_singleton_self _)
  exact ⟨rfl, rfl, hafter, htold, herror⟩

end Engine

end TonelessPinyin

import TonelessPinyin.Proofs.Query.Head
import TonelessPinyin.Proofs.Session.Congruence
import TonelessPinyin.Proofs.Session.Runs

/-!
What a session tells its listener. A search ends in one event, which says what it has found; only a
pattern that is refused for its excess ends in none. The last event of a session says that it is
closed. Nobody else can tell whether there is a listener, and what it does.
-/
namespace TonelessPinyin

open Pattern

namespace Notice

def event? : Notice → Option Event
  | .event e => some e
  | _ => none

/-- The events that the listener hears. -/
def events (notices : List Notice) : List Event := notices.filterMap event?

theorem events_append (l l' : List Notice) : events (l ++ l') = events l ++ events l' :=
  List.filterMap_append

theorem events_heard (deals : Listener) (e : Event) :
    events (Stage.heard (some deals) e) = [e] := by
  rw [Stage.heard]
  split_ifs <;> rfl

end Notice

/-- The event in which a search ends that gives a value and leaves the searcher `s`. -/
inductive Verdict (pattern : Text) (direction : Direction) (s : Searcher) :
    Except Error (Option Nat) → Event → Prop
  | found {span : Span} : s.matched = some span →
      Verdict pattern direction s (.ok (some s.point))
        (.found pattern direction s.point (some span))
  | failed : Verdict pattern direction s (.ok none) (.failed pattern direction)
  | invalid (flaw : Flaw) : Verdict pattern direction s (.ok none) (.invalidPattern pattern flaw)

/-- The events of a search: its verdict alone, or none if the pattern is refused for its excess. -/
def SearchTells (pattern : Text) (direction : Direction) (s : Searcher)
    (value : Except Error (Option Nat)) (events : List Event) : Prop :=
  (∃ e, events = [e] ∧ Verdict pattern direction s value e) ∨
    ∃ excess, prepare s.caseless pattern = .error (.excessivePattern excess) ∧
      value = .error (.excessivePattern excess) ∧ events = []

theorem SearchTells.of_none {pattern : Text} {direction : Direction} {s : Searcher}
    {events : List Event} (h : SearchTells pattern direction s (.ok none) events) (s' : Searcher) :
    SearchTells pattern direction s' (.ok none) events := by
  obtain ⟨e, rfl, hverdict⟩ | ⟨excess, -, hvalue, -⟩ := h
  · cases hverdict with
    | failed => exact .inl ⟨_, rfl, .failed⟩
    | invalid flaw => exact .inl ⟨_, rfl, .invalid flaw⟩
  · cases hvalue

/-- The events of a new query. An empty one has none, and neither has one without a pattern. -/
def QueryTells (compile : CompileQuery) (query : Text) (strategy : Strategy) (direction : Direction)
    (s : Searcher) (value : Except Error (Option Nat)) (events : List Event) : Prop :=
  if query = [] then value = .ok none ∧ events = []
  else
    match compile query strategy with
    | .error e => value = .error e ∧ events = []
    | .ok pattern => ∃ rest, events = .compiled query pattern strategy :: rest ∧
        SearchTells pattern direction s value rest

/-- The events of a command to an open session, by the value that it gives and the searcher that it
leaves. -/
def Session.Tells (compile : CompileQuery) (session : Session) (s : Searcher)
    (value : Except Error (Option Nat)) (events : List Event) : Command → Prop
  | .update query =>
    QueryTells compile query session.strategy session.direction s value events
  | .toggle =>
    QueryTells compile session.query session.strategy.other session.direction s value events
  | .again direction =>
    if session.pattern = [] then value = .ok none ∧ events = []
    else SearchTells session.pattern (direction.getD session.direction) s value events
  | .finish => value = .ok (some s.point) ∧ events = [.closed false s.point]
  | .abort => value = .ok (some s.point) ∧ events = [.closed true s.point]

/-! ## Stages -/

namespace Stage

section Heard

variable {g : Stage} {deals : Listener}

theorem events_note {n : Notice} (hn : n.event? = none) :
    Notice.events (g.note n).notices = Notice.events g.notices := by
  rw [note, Notice.events_append, Notice.events]
  simp [Notice.events, hn]

theorem events_emit (h : g.listener = some deals) (e : Event) :
    Notice.events (g.emit e).notices = Notice.events g.notices ++ [e] := by
  rw [emit_eq]
  simp only [h, Notice.events_append, Notice.events_heard]

theorem events_miss (h : g.listener = some deals) (e : Event) :
    Notice.events (g.miss e).2.notices = Notice.events g.notices ++ [e] :=
  events_emit (g := { g with session := { g.session with lastMatch := none } }) h e

theorem events_hit (h : g.listener = some deals) (span : Span) :
    let n := Searcher.clamp g.searcher.text (Searcher.landing g.session.direction span)
    Notice.events (g.hit span).2.notices =
      Notice.events g.notices ++ [.found g.session.pattern g.session.direction n (some span)] := by
  simp only [hit, emit_eq, h, Notice.events_append, Notice.events_heard]

theorem events_refreshed (h : g.listener = some deals) (query pattern : Text) :
    Notice.events (g.refreshed query pattern).notices =
      Notice.events g.notices ++ [.compiled query pattern g.session.strategy] := by
  let asked := { g with session := { g.session with query, pattern } }.setPoint g.session.origin
  have hevents := events_emit (g := asked.note (.compiled query g.session.strategy)) h
    (.compiled query pattern g.session.strategy)
  rw [events_note rfl] at hevents
  exact hevents

/-! ### Searches -/

/-- The events of a search come after those that there are. -/
theorem search_tells (h : g.listener = some deals) :
    ∃ told, Notice.events g.search.2.notices = Notice.events g.notices ++ told ∧
      SearchTells g.session.pattern g.session.direction g.search.2.searcher g.search.1 told := by
  obtain ⟨excess, hexcess, heq⟩ | ⟨flaw, heq⟩ | heq | ⟨r, span, -, heq⟩ := g.search_cases
  · rw [heq]
    exact ⟨[], (List.append_nil _).symm, .inr ⟨excess, hexcess, rfl, rfl⟩⟩
  · rw [heq]
    exact ⟨_, events_miss h _, .inl ⟨_, rfl, .invalid flaw⟩⟩
  · rw [heq]
    have hevents := events_miss (g := g.note (.searchFailed g.session.pattern)) h
      (.failed g.session.pattern g.session.direction)
    rw [events_note rfl] at hevents
    exact ⟨_, hevents, .inl ⟨_, rfl, .failed⟩⟩
  · rw [heq]
    refine ⟨_, events_hit h span, .inl ⟨_, rfl, ?_⟩⟩
    simp only [hit, emit_eq]
    exact .found rfl

theorem stepPast_tells (h : g.listener = some deals) :
    ∃ told, Notice.events g.stepPast.2.notices = Notice.events g.notices ++ told ∧
      SearchTells g.session.pattern g.session.direction g.stepPast.2.searcher g.stepPast.1
        told := by
  obtain ⟨told, hevents, htells⟩ := search_tells (g := g.setPoint (g.searcher.point + 1)) h
  obtain ⟨-, heq⟩ | ⟨hnone, heq⟩ | ⟨-, heq⟩ := g.stepPast_cases
  · rw [heq]
    exact ⟨_, events_miss (g := g.setPoint _) h _, .inl ⟨_, rfl, .failed⟩⟩
  · rw [hnone] at htells
    rw [heq]
    exact ⟨told, hevents, htells.of_none _⟩
  · rw [heq]
    exact ⟨told, hevents, htells⟩

/-! ### Commands -/

theorem again_tells (h : g.listener = some deals) (direction : Option Direction)
    (hne : g.session.pattern ≠ []) :
    ∃ told, Notice.events (g.again direction).2.notices = Notice.events g.notices ++ told ∧
      SearchTells g.session.pattern (direction.getD g.session.direction)
        (g.again direction).2.searcher (g.again direction).1 told := by
  rw [again_of_ne_nil direction hne]
  split_ifs
  · exact stepPast_tells (g := g.turned direction) h
  · exact search_tells (g := g.turned direction) h

theorem update_tells (h : g.listener = some deals) (hquiet : Notice.events g.notices = [])
    (compile : CompileQuery) (query : Text) :
    QueryTells compile query g.session.strategy g.session.direction
      (g.update compile query).2.searcher (g.update compile query).1
      (Notice.events (g.update compile query).2.notices) := by
  rw [QueryTells]
  split_ifs with hnil
  · rw [hnil, update_nil]
    exact ⟨rfl, hquiet⟩
  · split
    · next e hcompile =>
      rw [update_of_error hnil hcompile]
      exact ⟨rfl, hquiet⟩
    · next pattern hcompile =>
      have hlistener : (g.refreshed query pattern).listener = some deals := by
        rw [refreshed, emit_eq]
        exact h
      obtain ⟨told, hevents, htells⟩ := search_tells hlistener
      rw [events_refreshed h, hquiet] at hevents
      rw [update_of_ok hnil hcompile]
      refine ⟨told, hevents, ?_⟩
      rw [refreshed, emit_eq] at htells ⊢
      exact htells

theorem close_tells (h : g.listener = some deals) (hquiet : Notice.events g.notices = [])
    (aborted : Bool) :
    (g.close aborted).1 = .ok (some (g.close aborted).2.searcher.point) ∧
      Notice.events (g.close aborted).2.notices =
        [.closed aborted (g.close aborted).2.searcher.point] := by
  simp only [close, emit_eq, h, Notice.events_append, Notice.events_heard, hquiet, List.nil_append,
    and_self]

/-- What a command to an open session tells. -/
theorem run_tells (h : g.listener = some deals) (hquiet : Notice.events g.notices = [])
    (compile : CompileQuery) (c : Command) :
    g.session.Tells compile (g.run compile c).2.searcher (g.run compile c).1
      (Notice.events (g.run compile c).2.notices) c := by
  cases c with
  | update query => exact update_tells h hquiet compile query
  | again direction =>
    rw [Session.Tells, run]
    split_ifs with hnil
    · rw [again_of_nil direction hnil]
      exact ⟨rfl, hquiet⟩
    · obtain ⟨told, hevents, htells⟩ := again_tells h direction hnil
      rw [hevents, hquiet]
      exact htells
  | toggle =>
    let switched : Stage :=
      { g with session := { g.session with strategy := g.session.strategy.other } }
    have hswitched (strategy : Strategy) :
        Notice.events (switched.note (.switched strategy)).notices = [] :=
      (events_note rfl).trans hquiet
    exact update_tells (g := switched.note _) h (hswitched _) compile _
  | finish => exact close_tells h hquiet false
  | abort => exact close_tells (g := g.setPoint _) h hquiet true

end Heard

/-- The stages have the same session and the same searcher; their listeners may differ. -/
structure SameState (g g' : Stage) : Prop where
  session : g'.session = g.session
  searcher : g'.searcher = g.searcher

theorem congruence_sameState : Congruence SameState where
  session h := h.session
  text h := by rw [h.searcher]
  caseless h := by rw [h.searcher]
  point h := by rw [h.searcher]
  isAtEmptyMatch h := by rw [isAtEmptyMatch, isAtEmptyMatch, h.session, h.searcher]
  withSession h _ _ _ := ⟨rfl, h.searcher⟩
  setPoint h n _ := ⟨h.session, congrArg (Searcher.setPoint · n) h.searcher⟩
  note h _ := ⟨h.session, h.searcher⟩
  emit h e := by
    rw [emit_eq, emit_eq]
    exact ⟨h.session, h.searcher⟩
  hit h span := by
    simp only [hit, emit_eq, h.session, h.searcher]
    exact ⟨rfl, rfl⟩

end Stage

/-! ## Desks -/

namespace Desk

/-- Whether there is a listener, and what it does, changes nothing but who is listening. -/
theorem act_withListener (compile : CompileQuery) (d : Desk) (listener : Option Listener)
    (a : Action) :
    ({ d with listener }.act compile a).value = (d.act compile a).value ∧
      ({ d with listener }.act compile a).desk = { (d.act compile a).desk with listener } := by
  cases a with
  | command i c =>
    cases hsession : d.sessions[i]? with
    | none => simp only [act, command, hsession, and_self]
    | some session =>
      have hsame : Stage.SameState (d.stage session) (stage { d with listener } session) :=
        ⟨rfl, rfl⟩
      obtain ⟨hvalue, hstate⟩ := Stage.congruence_sameState.step hsame compile c
      rw [act_command compile hsession, act_command (d := { d with listener }) compile hsession]
      refine ⟨hvalue, ?_⟩
      simp only [hstate.session, hstate.searcher]
  | start id direction strategy => exact ⟨rfl, rfl⟩
  | setPoint n => exact ⟨rfl, rfl⟩
  | setText t => exact ⟨rfl, rfl⟩
  | search direction a => exact ⟨rfl, rfl⟩

theorem run_withListener (compile : CompileQuery) (d : Desk) (listener : Option Listener)
    (actions : List Action) :
    { d with listener }.run compile actions = { d.run compile actions with listener } := by
  induction actions generalizing d with
  | nil => rfl
  | cons a actions ih =>
    change ({ d with listener }.act compile a).desk.run compile actions = _
    rw [(act_withListener compile d listener a).2, ih]
    rfl

variable {d : Desk} {i : Nat} {session : Session}

/-- A closed session refuses every command, and nothing is changed. -/
theorem act_of_closed (compile : CompileQuery) (h : d.sessions[i]? = some session)
    (hclosed : session.closed = true) (c : Command) :
    d.act compile (.command i c) = ⟨.error (.closedSession session.id), [], d⟩ := by
  obtain ⟨hlt, hget⟩ := List.getElem?_eq_some_iff.1 h
  rw [act_command compile h, Stage.step, if_pos hclosed]
  simp only [← hget, List.set_getElem_self]

theorem getElem?_act_of_closed (compile : CompileQuery) (h : d.sessions[i]? = some session)
    (hclosed : session.closed = true) (a : Action) :
    (d.act compile a).desk.sessions[i]? = some session := by
  cases a with
  | command j c =>
    by_cases hij : j = i
    · subst hij
      rwa [act_of_closed compile h hclosed]
    · cases hother : d.sessions[j]? with
      | none => simpa only [act, command, hother] using h
      | some other =>
        rw [act_command compile hother]
        exact (List.getElem?_set_ne hij).trans h
  | start id direction strategy =>
    have hlt : i < d.sessions.length := (List.getElem?_eq_some_iff.1 h).1
    exact (List.getElem?_append_left hlt).trans h
  | setPoint n => exact h
  | setText t => exact h
  | search direction a => exact h

/-- Whatever is done afterwards, a closed session stays as it is. -/
theorem getElem?_run_of_closed (compile : CompileQuery) (h : d.sessions[i]? = some session)
    (hclosed : session.closed = true) (actions : List Action) :
    (d.run compile actions).sessions[i]? = some session := by
  induction actions generalizing d with
  | nil => exact h
  | cons a actions ih => exact ih (getElem?_act_of_closed compile h hclosed a)

/-- A command to an open session tells the listener what `Session.Tells` says. After one that closes
it, whatever else is done, every command to it is refused, tells nothing and changes nothing. With
another listener, or none, all actions give the same values and leave the same sessions and the same
searcher. -/
theorem trace_protocol (hsession : d.sessions[i]? = some session) (hopen : session.closed = false)
    {deals : Listener} (hlistener : d.listener = some deals) (compile : CompileQuery)
    (c : Command) :
    let o := d.act compile (.command i c)
    session.Tells compile o.desk.searcher o.value (Notice.events o.notices) c ∧
      (∃ after, o.desk.sessions[i]? = some after ∧ (after.closed = true ↔ c.Closes)) ∧
      (c.Closes → ∀ (compile : CompileQuery) (actions : List Action) (c : Command),
        let later := o.desk.run compile actions
        later.act compile (.command i c) = ⟨.error (.closedSession session.id), [], later⟩) ∧
      ∀ (listener : Option Listener) (actions : List Action) (a : Action),
        let here := (d.run compile actions).act compile a
        let there := ({ d with listener }.run compile actions).act compile a
        there.value = here.value ∧ there.desk = { here.desk with listener } := by
  intro o
  have ho : o = _ := act_of_open compile hsession hopen c
  have hlt : i < d.sessions.length := (List.getElem?_eq_some_iff.1 hsession).1
  have hafter : o.desk.sessions[i]? = some (Stage.run compile (d.stage session) c).2.session := by
    rw [ho]
    exact List.getElem?_set_self hlt
  refine ⟨?_, ⟨_, hafter, ?_⟩, fun hc compile' actions c' => ?_, fun listener actions a => ?_⟩
  · rw [ho]
    exact Stage.run_tells (g := d.stage session) hlistener rfl compile c
  · rw [Stage.closed_run, hopen]
    simp
  · rw [Stage.run_of_closes compile (d.stage session) hc] at hafter
    exact act_of_closed compile' (getElem?_run_of_closed compile' hafter rfl actions) rfl c'
  · have hact := act_withListener compile (d.run compile actions) listener a
    rw [← run_withListener compile d listener actions] at hact
    exact hact

/-- The query `a{4294967295}` is compiled, and no event says that its pattern is refused. -/
theorem trace_protocol_excess :
    let e : Engine := ⟨.ofTable ⟨[(['m', 'a'], ['m', 'ā'])]⟩, .custom, ⟨true, .pinyin⟩⟩
    let query := "a\x7b4294967295\x7d".toList
    let session : Session := ⟨[], .forward, .regexp, 0, [], [], false, none⟩
    let d := e.openSession (some fun _ => true) [] ['a', 'a'] 0 .forward (some .regexp)
    let o := d.act e.compileQuery (.command 0 (.update query))
    d.sessions[0]? = some session ∧ session.closed = false ∧ d.listener = some (fun _ => true) ∧
      o.value = .error (.excessivePattern .repetitions) ∧
      Notice.events o.notices = [.compiled query query .regexp] := by
  intro e query session d o
  have hsession : d.sessions[0]? = some session := by decide
  have hvalue : o.value = .error (.excessivePattern .repetitions) := by decide
  obtain ⟨htells, -⟩ := trace_protocol hsession rfl rfl e.compileQuery (.update query)
  have hne : query ≠ [] := by decide
  rw [Session.Tells, QueryTells, if_neg hne] at htells
  obtain ⟨rest, hevents, ⟨event, -, hverdict⟩ | ⟨excess, -, -, rfl⟩⟩ := htells
  · rw [hvalue] at hverdict
    cases hverdict
  · exact ⟨hsession, rfl, rfl, hvalue, hevents⟩

end Desk

end TonelessPinyin

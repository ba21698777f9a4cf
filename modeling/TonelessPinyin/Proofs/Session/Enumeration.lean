import TonelessPinyin.Proofs.Pattern.Successive
import TonelessPinyin.Proofs.Query.Empty
import TonelessPinyin.Proofs.Session.Runs

/-!
A session enumerates the matches that the engine finds at once: a new query tells of the first one,
each repetition of the next, and after the last one there is none.
-/
namespace TonelessPinyin

open Pattern

/-! ## The empty query -/

theorem Pattern.prepare_nil (caseless : Bool) : prepare caseless [] = .ok .empty := by
  cases caseless
  · rfl
  · rfl

/-! ## What is told -/

namespace Notice

/-- A match that the listener is told of. -/
def found? : Notice → Option Event
  | .event (.found pattern direction point span) => some (.found pattern direction point span)
  | _ => none

def finds (notices : List Notice) : List Event := notices.filterMap found?

theorem finds_append (l l' : List Notice) : finds (l ++ l') = finds l ++ finds l' :=
  List.filterMap_append

theorem finds_heard (deals : Listener) (e : Event) :
    finds (Stage.heard (some deals) e) = (found? (.event e)).toList := by
  rw [Stage.heard]
  split_ifs
  · cases e <;> rfl
  · cases e <;> rfl

end Notice

namespace Desk

/-- The value, and the matches that the listener is told of. -/
def Outcome.told (o : Outcome) : Except Error (Option Nat) × List Event :=
  (o.value, Notice.finds o.notices)

/-- What actions lead to, one after another. -/
def outcomes (compile : CompileQuery) : Desk → List Action → List Outcome
  | _, [] => []
  | d, a :: rest => d.act compile a :: outcomes compile (d.act compile a).desk rest

end Desk

/-! ## Enumerations -/

/-- A pattern that is never empty where it matches, and a listener that is told of its matches. -/
structure Enumeration where
  text : Text
  caseless : Bool
  listener : Listener
  pattern : Text
  node : Node
  prepared : prepare caseless pattern = .ok node
  neverEmpty : node.NeverEmpty text

namespace Enumeration

variable {en : Enumeration} {n : Nat} {g : Stage}

theorem pattern_ne_nil (en : Enumeration) : en.pattern ≠ [] := by
  intro h
  have hprepared := en.prepared
  rw [h, prepare_nil] at hprepared
  apply en.neverEmpty 0 (Nat.zero_le _)
  rw [← Except.ok.inj hprepared]
  rfl

/-- An open session that searches forward from `n`, where there is no empty match. -/
structure Searches (en : Enumeration) (n : Nat) (g : Stage) : Prop where
  text : g.searcher.text = en.text
  caseless : g.searcher.caseless = en.caseless
  point : g.searcher.point = n
  listener : g.listener = some en.listener
  isOpen : g.session.closed = false
  direction : g.session.direction = .forward
  pattern : g.session.pattern = en.pattern
  notAtEmptyMatch : g.isAtEmptyMatch = false

namespace Searches

theorem prepare_eq (h : en.Searches n g) :
    prepare g.searcher.caseless g.session.pattern = .ok en.node := by
  rw [h.caseless, h.pattern, en.prepared]

theorem nextMatch_eq (h : en.Searches n g) :
    g.searcher.nextMatch en.node g.session.direction =
      en.node.search en.text n en.text.length := by
  rw [h.direction, Searcher.nextMatch, h.text, h.point]

theorem search_none (h : en.Searches n g)
    (hnone : en.node.search en.text n en.text.length = none) :
    g.search.1 = .ok none ∧ Notice.finds g.search.2.notices = Notice.finds g.notices := by
  rw [Stage.search_of_none h.prepare_eq (h.nextMatch_eq.trans hnone)]
  refine ⟨rfl, ?_⟩
  rw [Stage.miss, Stage.emit_eq]
  simp only [Stage.note, h.listener, Notice.finds_append, Notice.finds_heard]
  exact (List.append_nil _).trans (List.append_nil _)

theorem search_some (h : en.Searches n g) (hn : n ≤ en.text.length) {s : Span}
    (hs : en.node.search en.text n en.text.length = some s) :
    g.search.1 = .ok (some s.stop) ∧
      Notice.finds g.search.2.notices =
        Notice.finds g.notices ++ [.found en.pattern .forward s.stop (some s)] ∧
      en.Searches s.stop g.search.2 := by
  obtain ⟨-, hlt, hstop⟩ := en.neverEmpty.search_lt hn hs
  have hpoint :
      Searcher.clamp g.searcher.text (Searcher.landing g.session.direction s) = s.stop := by
    rw [h.direction, Searcher.landing, h.text, Searcher.clamp_of_le hstop]
  rw [Stage.search_of_some h.prepare_eq (h.nextMatch_eq.trans hs)]
  simp only [Stage.hit, hpoint, Stage.emit_eq]
  refine ⟨trivial, ?_, ?_⟩
  · simp only [h.listener, h.pattern, h.direction, Notice.finds_append, Notice.finds_heard]
    rfl
  · refine ⟨h.text, h.caseless, rfl, h.listener, h.isOpen, h.direction, h.pattern, ?_⟩
    have hne : s ≠ ⟨s.stop, s.stop⟩ := fun heq => hlt.ne (congrArg Span.start heq)
    simpa [Stage.isAtEmptyMatch] using hne

theorem again_eq (h : en.Searches n g) : g.again none = g.search := by
  have hpattern : g.session.pattern.isEmpty = false := by
    rw [h.pattern]
    simpa using en.pattern_ne_nil
  simp [Stage.again, hpattern, h.notAtEmptyMatch]

end Searches

/-- The only session of the desk searches forward from `n`. -/
def IsAt (en : Enumeration) (n : Nat) (d : Desk) : Prop :=
  ∃ session, d.sessions = [session] ∧ en.Searches n ⟨session, d.searcher, d.listener, []⟩

/-- The outcome of a search from `n`: the listener is told of the match that is found there and
the desk is at its end, or there is none. -/
structure Tells (en : Enumeration) (n : Nat) (o : Desk.Outcome) : Prop where
  last : en.node.search en.text n en.text.length = none → o.told = (.ok none, [])
  next : ∀ s, en.node.search en.text n en.text.length = some s →
    o.told = (.ok (some s.stop), [.found en.pattern .forward s.stop (some s)]) ∧
      en.IsAt s.stop o.desk

section Steps

variable {compile : CompileQuery} {d : Desk} {session : Session} {c : Command}

/-- A command that comes to a search from `n` tells what is found there. -/
theorem tells_of_run (hn : n ≤ en.text.length) (hsessions : d.sessions = [session])
    (hopen : session.closed = false) (hlistener : d.listener = some en.listener)
    (hrun : Stage.run compile ⟨session, d.searcher, d.listener, []⟩ c = g.search)
    (hquiet : Notice.finds g.notices = []) (hg : en.Searches n g) :
    en.Tells n (d.act compile (.command 0 c)) := by
  have hact := Desk.act_of_open compile (i := 0) (by rw [hsessions]; rfl) hopen c
  rw [hrun, hsessions] at hact
  rw [hact]
  constructor
  · intro hnone
    obtain ⟨hvalue, hfinds⟩ := hg.search_none hnone
    exact Prod.ext hvalue (hfinds.trans hquiet)
  · intro s hs
    obtain ⟨hvalue, hfinds, hnext⟩ := hg.search_some hn hs
    rw [hquiet] at hfinds
    refine ⟨Prod.ext hvalue hfinds, g.search.2.session, rfl, ?_⟩
    exact ⟨hnext.text, hnext.caseless, hnext.point, hlistener, hnext.isOpen, hnext.direction,
      hnext.pattern, hnext.notAtEmptyMatch⟩

/-- One repetition tells of the next match. -/
theorem IsAt.again (h : en.IsAt n d) (hn : n ≤ en.text.length) :
    en.Tells n (d.act compile (.command 0 (.again none))) := by
  obtain ⟨session, hsessions, hsearches⟩ := h
  exact tells_of_run hn hsessions hsearches.isOpen hsearches.listener hsearches.again_eq rfl
    hsearches

end Steps

/-- A run of repetitions tells of all matches after the first one. The induction is on the matches;
each of them leaves the desk where the next search begins. -/
theorem outcomes_of_successive {compile : CompileQuery} {spans : List Span}
    (hspans : en.node.Successive en.text n spans) (hn : n ≤ en.text.length) {o : Desk.Outcome}
    (ho : en.Tells n o) :
    (o :: o.desk.outcomes compile
      (List.replicate spans.length (.command 0 (.again none)))).map Desk.Outcome.told =
      spans.map (fun s => (.ok (some s.stop), [.found en.pattern .forward s.stop (some s)])) ++
        [(.ok none, [])] := by
  induction hspans generalizing o with
  | done hnone => exact congrArg ([·]) (ho.last hnone)
  | next hs _ ih =>
    obtain ⟨htold, hnext⟩ := ho.next _ hs
    obtain ⟨-, -, hstop⟩ := en.neverEmpty.search_lt hn hs
    exact congrArg₂ List.cons htold (ih hstop (hnext.again hstop))

/-- A new query in a session begun at the start of the text is a search from there. -/
theorem tells_of_openSession (en : Enumeration) {e : Engine} {query : Text} {strategy : Strategy}
    (hcaseless : e.settings.caseless = en.caseless)
    (hcompile : e.compile query (some strategy) = .ok en.pattern) (id : Text) :
    en.Tells 0 ((e.openSession (some en.listener) id en.text 0 .forward (some strategy)).act
      e.compileQuery (.command 0 (.update query))) := by
  have hne : query ≠ [] := by
    rintro rfl
    rw [e.compile_nil] at hcompile
    exact en.pattern_ne_nil (Except.ok.inj hcompile).symm
  have hstart : Searcher.clamp en.text 0 = 0 := Nat.zero_min _
  refine tells_of_run (Nat.zero_le _) rfl rfl rfl (Stage.update_of_ok hne hcompile) ?_ ?_
  · rw [Stage.refreshed, Stage.emit_eq]
    exact (Notice.finds_append _ _).trans (Notice.finds_heard en.listener _)
  · rw [Stage.refreshed, Stage.emit_eq]
    refine ⟨rfl, hcaseless, ?_, rfl, rfl, rfl, rfl, rfl⟩
    exact (Searcher.clamp_of_le (Searcher.clamp_le_length en.text 0)).trans hstart

end Enumeration

namespace Engine

variable {e : Engine} {query pattern t : Text} {strategy : Strategy} {r : Node}

/-- A session that searches forward from the start enumerates what the engine finds at once. For a
valid pattern that nowhere matches the empty text, the finds are not empty, are in order and do not
overlap. The new query and the repetitions after it give their ends, one after another, and tell of
the finds themselves, and the last repetition finds nothing. The strategy is given: without one the
engine takes the query for pinyin, and the session has the engine's default. -/
theorem enumeration_eq_spans (hcompile : e.compile query (some strategy) = .ok pattern)
    (hprepare : prepare e.settings.caseless pattern = .ok r) (hne : r.NeverEmpty t) (id : Text)
    (deals : Listener) :
    ∃ spans, e.spans query t (some strategy) = .ok spans ∧
      (∀ s ∈ spans, s.start < s.stop ∧ s.stop ≤ t.length) ∧
      spans.Pairwise (fun a b => a.stop ≤ b.start) ∧
      ((e.openSession (some deals) id t 0 .forward (some strategy)).outcomes e.compileQuery
        (.command 0 (.update query) ::
          List.replicate spans.length (.command 0 (.again none)))).map Desk.Outcome.told =
        spans.map (fun s => (.ok (some s.stop), [.found pattern .forward s.stop (some s)])) ++
          [(.ok none, [])] := by
  let en : Enumeration := ⟨t, e.settings.caseless, deals, pattern, r, hprepare, hne⟩
  have hsuccessive := Node.successive_spans hne
  have hbounds := hsuccessive.bounds hne (Nat.zero_le _)
  refine ⟨r.spans t, ?_, fun s hs => (hbounds s hs).2, hsuccessive.pairwise hne (Nat.zero_le _), ?_⟩
  · have hall : (r.spans t).filter (fun s => s.start < s.stop) = r.spans t :=
      List.filter_eq_self.2 fun s hs => by simpa using (hbounds s hs).2.1
    rw [Engine.spans, hcompile]
    simp only [bind, Except.bind, hprepare, hall]
    rfl
  · have hfirst := en.tells_of_openSession (e := e) rfl hcompile id
    exact en.outcomes_of_successive hsuccessive (Nat.zero_le _) hfirst

/-- Over the syllable lǔ a session with the query `lux` tells of `lǔ x` and then of `lǘx`. -/
theorem enumeration_eq_spans_lux :
    let e : Engine := ⟨.ofTable ⟨[(['l', 'u'], ['l', 'ǔ'])]⟩, .custom, ⟨true, .pinyin⟩⟩
    let t : Text := ['l', 'ǔ', ' ', 'x', ' ', 'l', 'ǘ', 'x']
    let pattern := "l[ūúǔùǖǘǚǜ]\\s*x".toList
    let r := (prepare true pattern).toOption.getD .empty
    e.compile ['l', 'u', 'x'] (some .pinyin) = .ok pattern ∧ prepare true pattern = .ok r ∧
      r.NeverEmpty t ∧ e.spans ['l', 'u', 'x'] t (some .pinyin) = .ok [⟨0, 4⟩, ⟨5, 8⟩] ∧
      ((e.openSession (some fun _ => true) [] t 0 .forward (some .pinyin)).outcomes e.compileQuery
        [.command 0 (.update ['l', 'u', 'x']), .command 0 (.again none),
          .command 0 (.again none)]).map Desk.Outcome.told =
        [(.ok (some 4), [.found pattern .forward 4 (some ⟨0, 4⟩)]),
          (.ok (some 8), [.found pattern .forward 8 (some ⟨5, 8⟩)]), (.ok none, [])] := by
  intro e t pattern r
  have hcompile : e.compile ['l', 'u', 'x'] (some .pinyin) = .ok pattern := by decide
  have hprepare : prepare true pattern = .ok r := by decide
  have hne : r.NeverEmpty t := by decide
  have hspans : e.spans ['l', 'u', 'x'] t (some .pinyin) = .ok [⟨0, 4⟩, ⟨5, 8⟩] := by decide
  obtain ⟨spans, hfound, -, -, hrun⟩ :=
    enumeration_eq_spans hcompile hprepare hne [] fun _ => true
  obtain rfl := Except.ok.inj (hfound.symm.trans hspans)
  exact ⟨hcompile, hprepare, hne, hspans, hrun⟩

end Engine

end TonelessPinyin

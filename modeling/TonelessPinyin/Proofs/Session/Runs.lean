import TonelessPinyin.Proofs.Session.Steps

/-!
Runs of several sessions over one searcher. Whatever is done, as long as the text is left alone all
points stay in it.
-/
namespace TonelessPinyin.Desk

def Action.KeepsText : Action → Prop
  | .setText _ => False
  | _ => True

/-- The desks that actions lead to from a new searcher over a text that is left alone. Every query
is compiled in some way, as its session does it. -/
inductive Reachable (t : Text) (point : Int) (caseless : Bool) (listener : Option Listener) :
    Desk → Prop
  | new : Reachable t point caseless listener (.new (.new t point caseless) listener)
  | act {d : Desk} {a : Action} (compile : CompileQuery) :
      Reachable t point caseless listener d → a.KeepsText →
        Reachable t point caseless listener (d.act compile a).desk

/-- The desk after actions, one after another. -/
def run (compile : CompileQuery) (d : Desk) (actions : List Action) : Desk :=
  actions.foldl (fun d a => (d.act compile a).desk) d

@[simp] theorem run_nil (compile : CompileQuery) (d : Desk) : d.run compile [] = d := rfl

theorem run_append (compile : CompileQuery) (d : Desk) (actions more : List Action) :
    d.run compile (actions ++ more) = (d.run compile actions).run compile more :=
  List.foldl_append

/-- All points of the desk are in the text. -/
structure IsOver (t : Text) (caseless : Bool) (listener : Option Listener) (d : Desk) : Prop where
  text : d.searcher.text = t
  caseless : d.searcher.caseless = caseless
  listener : d.listener = listener
  point_le : d.searcher.point ≤ t.length
  origin_le : ∀ s ∈ d.sessions, s.origin ≤ t.length

variable {t : Text} {point : Int} {caseless : Bool} {listener : Option Listener} {d : Desk}

namespace IsOver

theorem new (t : Text) (point : Int) (caseless : Bool) (listener : Option Listener) :
    IsOver t caseless listener (.new (.new t point caseless) listener) :=
  ⟨rfl, rfl, rfl, Searcher.clamp_le_length t point, by simp [Desk.new]⟩

theorem searcher (h : IsOver t caseless listener d) {s : Searcher} (hs : d.searcher.Keeps s) :
    IsOver t caseless listener { d with searcher := s } := by
  obtain ⟨rfl, rfl, rfl, hpoint, horigin⟩ := h
  exact ⟨hs.text, hs.caseless, rfl, hs.point_le hpoint, horigin⟩

theorem startSession (h : IsOver t caseless listener d) (id : Text) (direction : Direction)
    (strategy : Strategy) : IsOver t caseless listener (d.startSession id direction strategy) := by
  refine ⟨h.text, h.caseless, h.listener, h.point_le, ?_⟩
  intro s hs
  rcases List.mem_append.1 hs with hs | hs
  · exact h.origin_le s hs
  · obtain rfl := List.mem_singleton.1 hs
    exact h.point_le

theorem command (h : IsOver t caseless listener d) (compile : CompileQuery) (i : Nat)
    (c : Command) : IsOver t caseless listener (d.command compile i c).desk := by
  rw [Desk.command]
  split
  · exact h
  · next session hsession =>
    have hkeeps := Stage.Keeps.step compile ⟨session, d.searcher, d.listener, []⟩ c
    have hover := h.searcher hkeeps.searcher
    refine ⟨hover.text, hover.caseless, h.listener, hover.point_le, ?_⟩
    intro s hs
    rcases List.mem_or_eq_of_mem_set hs with hs | rfl
    · exact h.origin_le s hs
    · rw [hkeeps.origin]
      exact h.origin_le session (List.mem_of_getElem? hsession)

/-- One action keeps all points in the text. -/
theorem act (h : IsOver t caseless listener d) (compile : CompileQuery) {a : Action}
    (ha : a.KeepsText) : IsOver t caseless listener (d.act compile a).desk := by
  cases a with
  | command i c => exact h.command compile i c
  | start id direction strategy => exact h.startSession id direction strategy
  | setPoint n => exact h.searcher (.setPoint d.searcher d.searcher.matched n)
  | setText t => exact absurd ha id
  | search direction a => exact h.searcher (d.searcher.search_keeps direction a)

end IsOver

/-- And so does every run. -/
theorem Reachable.isOver (h : Reachable t point caseless listener d) :
    IsOver t caseless listener d := by
  induction h with
  | new => exact .new t point caseless listener
  | act compile _ ha ih => exact ih.act compile ha

/-- A session of the desk and its searcher, before a command. -/
abbrev stage (d : Desk) (session : Session) : Stage := ⟨session, d.searcher, d.listener, []⟩

theorem act_command {i : Nat} {session : Session} (compile : CompileQuery)
    (h : d.sessions[i]? = some session) (c : Command) :
    let r := Stage.step compile (d.stage session) c
    d.act compile (.command i c) = ⟨r.1, r.2.notices,
      { d with searcher := r.2.searcher, sessions := d.sessions.set i r.2.session }⟩ := by
  simp only [Desk.act, Desk.command, h]

theorem act_of_open {i : Nat} {session : Session} (compile : CompileQuery)
    (h : d.sessions[i]? = some session) (hopen : session.closed = false) (c : Command) :
    let r := Stage.run compile ⟨session, d.searcher, d.listener, []⟩ c
    d.act compile (.command i c) = ⟨r.1, r.2.notices,
      { d with searcher := r.2.searcher, sessions := d.sessions.set i r.2.session }⟩ := by
  rw [act_command compile h, Stage.step, if_neg (by simp [hopen])]

end TonelessPinyin.Desk

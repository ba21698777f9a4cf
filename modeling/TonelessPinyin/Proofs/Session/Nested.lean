import TonelessPinyin.Proofs.Query.Head
import TonelessPinyin.Proofs.Session.Congruence
import TonelessPinyin.Proofs.Session.Runs

/-!
A session within another one. Aborted, it puts the cursor back but leaves behind what the searcher
has found last. A session that has found something itself may then take this for its own last match.
-/
namespace TonelessPinyin

open Pattern

/-! ## Stages -/

namespace Stage

/-- The stage with another last match of the searcher. -/
def withMatched (g : Stage) (matched : Option Span) : Stage :=
  { g with searcher := { g.searcher with matched } }

/-- The other stage may have another last match of the searcher. If the session has found something,
it must not see an empty match in only one of the two where it may search next. -/
def Resembles (g g' : Stage) : Prop :=
  ∃ matched, g' = g.withMatched matched ∧ (g.session.lastMatch = none ∨
    ∀ n, n = g.searcher.point ∨ n = Searcher.clamp g.searcher.text g.session.origin →
      (g.searcher.matched = some ⟨n, n⟩ ↔ matched = some ⟨n, n⟩))

theorem isAtEmptyMatch_withMatched {g : Stage} {matched : Option Span}
    (h : g.session.lastMatch = none ∨
      (g.searcher.matched = some ⟨g.searcher.point, g.searcher.point⟩ ↔
        matched = some ⟨g.searcher.point, g.searcher.point⟩)) :
    (g.withMatched matched).isAtEmptyMatch = g.isAtEmptyMatch := by
  rcases h with hnone | hiff
  · simp only [isAtEmptyMatch, withMatched, hnone, Option.isSome_none, Bool.false_and]
  · rw [Bool.eq_iff_iff]
    simp only [isAtEmptyMatch, withMatched, Bool.and_eq_true, beq_iff_eq, hiff]

theorem congruence_resembles : Congruence Resembles where
  session := by
    rintro g _ ⟨matched, rfl, -⟩
    rfl
  text := by
    rintro g _ ⟨matched, rfl, -⟩
    rfl
  caseless := by
    rintro g _ ⟨matched, rfl, -⟩
    rfl
  point := by
    rintro g _ ⟨matched, rfl, -⟩
    rfl
  isAtEmptyMatch := by
    rintro g _ ⟨matched, rfl, hempty⟩
    exact isAtEmptyMatch_withMatched (hempty.imp_right fun h => h _ (.inl rfl))
  withSession := by
    rintro g _ ⟨matched, rfl, hempty⟩ s horigin (hnone | hlast)
    · exact ⟨matched, rfl, .inl hnone⟩
    · refine ⟨matched, rfl, ?_⟩
      change s.lastMatch = none ∨
        ∀ n, n = g.searcher.point ∨ n = Searcher.clamp g.searcher.text s.origin → _
      rwa [hlast, horigin]
  setPoint := by
    rintro g _ ⟨matched, rfl, hempty⟩ n (rfl | hnone | hat)
    · refine ⟨matched, rfl, hempty.imp_right fun h k hk => ?_⟩
      exact h k (.inr (hk.elim id id))
    · exact ⟨matched, rfl, .inl hnone⟩
    · -- both have the same empty match, and so the same last match
      have hat' := isAtEmptyMatch_withMatched (hempty.imp_right fun h => h _ (.inl rfl))
      rw [hat] at hat'
      simp only [Stage.isAtEmptyMatch, withMatched, Bool.and_eq_true, beq_iff_eq] at hat hat'
      refine ⟨matched, rfl, .inr fun k _ => ?_⟩
      change g.searcher.matched = _ ↔ _
      rw [hat.2, hat'.2]
  note := fun ⟨matched, heq, hempty⟩ _ => ⟨matched, by rw [heq]; rfl, hempty⟩
  emit := by
    rintro g _ ⟨matched, rfl, hempty⟩ e
    rw [emit_eq, emit_eq]
    exact ⟨matched, rfl, hempty⟩
  hit := by
    rintro g _ ⟨matched, rfl, -⟩ span
    simp only [hit, emit_eq]
    exact ⟨some span, rfl, .inr fun _ _ => Iff.rfl⟩

end Stage

/-! ## Desks -/

namespace Desk

/-- The other outcome shows the same and has one more session, `extra`; its searcher may have
another last match. -/
structure Outcome.ShowsSame (extra : Session) (o o' : Outcome) : Prop where
  value : o'.value = o.value
  notices : o'.notices = o.notices
  sessions : o'.desk.sessions = o.desk.sessions ++ [extra]
  searcher : ∃ matched, o'.desk.searcher = { o.desk.searcher with matched }

/-- A session's stages on the two desks resemble each other, and the other desk has one session
more. -/
def Resembles (i : Nat) (extra : Session) (d d' : Desk) : Prop :=
  ∃ session, d.sessions[i]? = some session ∧ d'.sessions = d.sessions ++ [extra] ∧
    (d.stage session).Resembles (d'.stage session)

theorem Resembles.command {i : Nat} {extra : Session} {d d' : Desk} (h : d.Resembles i extra d')
    (compile : CompileQuery) (c : Command) :
    Outcome.ShowsSame extra (d.act compile (.command i c)) (d'.act compile (.command i c)) ∧
      (d.act compile (.command i c)).desk.Resembles i extra
        (d'.act compile (.command i c)).desk := by
  obtain ⟨session, hsession, hsessions, hstage⟩ := h
  have hlt : i < d.sessions.length := (List.getElem?_eq_some_iff.1 hsession).1
  have hsession' : d'.sessions[i]? = some session := by
    rw [hsessions, List.getElem?_append_left hlt, hsession]
  have hlistener : d'.listener = d.listener := by
    obtain ⟨_, heq, -⟩ := hstage
    exact congrArg Stage.listener heq
  obtain ⟨hvalue, matched, heq, hempty⟩ := Stage.congruence_resembles.step hstage compile c
  rw [act_command compile hsession, act_command compile hsession', heq, hsessions,
    List.set_append_left _ _ hlt]
  refine ⟨⟨hvalue, rfl, rfl, matched, rfl⟩, _, List.getElem?_set_self hlt, rfl, matched, ?_, hempty⟩
  simp only [stage, hlistener]
  rfl

theorem Resembles.run {i : Nat} {extra : Session} {d d' : Desk} (h : d.Resembles i extra d')
    (compile : CompileQuery) (commands : List Command) :
    (d.run compile (commands.map (.command i))).Resembles i extra
      (d'.run compile (commands.map (.command i))) := by
  induction commands generalizing d d' with
  | nil => exact h
  | cons c commands ih => exact ih (h.command compile c).2

/-- A session `inner` has been begun on the desk. It may have moved the searcher. -/
structure Holds (d : Desk) (inner : Session) (d' : Desk) : Prop where
  text : d'.searcher.text = d.searcher.text
  caseless : d'.searcher.caseless = d.searcher.caseless
  listener : d'.listener = d.listener
  sessions : d'.sessions = d.sessions ++ [inner]
  origin : inner.origin = d.searcher.point
  isOpen : inner.closed = false

namespace Holds

variable {d d' : Desk} {inner : Session}

theorem getElem? (h : d.Holds inner d') : d'.sessions[d.sessions.length]? = some inner := by
  rw [h.sessions, List.getElem?_concat_length]

theorem command (h : d.Holds inner d') (compile : CompileQuery) {c : Command} (hc : ¬ c.Closes) :
    ∃ inner, d.Holds inner (d'.act compile (.command d.sessions.length c)).desk := by
  have hkeeps := Stage.Keeps.step compile (d'.stage inner) c
  have hopen : (Stage.step compile (d'.stage inner) c).2.session.closed = false := by
    rw [Stage.step, if_neg (by simp [h.isOpen]), ← Bool.not_eq_true, Stage.closed_run, h.isOpen]
    simpa using hc
  rw [act_command compile h.getElem?]
  refine ⟨_, hkeeps.searcher.text.trans h.text, hkeeps.searcher.caseless.trans h.caseless,
    h.listener, ?_, hkeeps.origin.trans h.origin, hopen⟩
  rw [h.sessions, List.set_append_right _ _ (Nat.le_refl _), Nat.sub_self]
  rfl

theorem run (h : d.Holds inner d') (compile : CompileQuery) {commands : List Command}
    (hcommands : ∀ c ∈ commands, ¬ c.Closes) :
    ∃ inner, d.Holds inner (d'.run compile (commands.map (.command d.sessions.length))) := by
  induction commands generalizing d' inner with
  | nil => exact ⟨inner, h⟩
  | cons c commands ih =>
    obtain ⟨hc, hcommands⟩ := List.forall_mem_cons.1 hcommands
    obtain ⟨inner', h'⟩ := h.command compile hc
    exact ih h' hcommands

/-- When the inner session is aborted, all is as before but for the searcher's last match. -/
theorem abort (h : d.Holds inner d') (hpoint : d.searcher.point ≤ d.searcher.text.length)
    (compile : CompileQuery) :
    (d'.act compile (.command d.sessions.length .abort)).desk =
      { d with
        searcher := { d.searcher with matched := d'.searcher.matched }
        sessions := d.sessions ++ [{ inner with closed := true }] } := by
  have hclamp := Searcher.clamp_of_le hpoint
  rw [act_of_open compile h.getElem? h.isOpen]
  simp only [Stage.run, Stage.close, Stage.emit_eq, Stage.setPoint, Searcher.setPoint, h.text,
    h.caseless, h.listener, h.origin, h.sessions, hclamp]
  rw [List.set_append_right _ _ (Nat.le_refl _), Nat.sub_self]
  rfl

end Holds

variable {t : Text} {point : Int} {caseless : Bool} {listener : Option Listener} {d : Desk}

/-- A session that is begun after anything has been done with the desk, given any commands and
aborted, leaves the desk as it was but for the searcher's last match. From then on any commands to
another session give the same values, the same notices and the same states as if it had never been
begun, unless that session has found something and at the point, or at its origin, the searcher's
last match is empty in only one of the two cases. -/
theorem aborted_session_transparent (hd : Reachable t point caseless listener d) {i : Nat}
    {session : Session} (hsession : d.sessions[i]? = some session) (id : Text)
    (direction : Direction) (strategy : Strategy) (compileInner : CompileQuery)
    {nested : List Command} (hnested : ∀ c ∈ nested, ¬ c.Closes) :
    let after := d.run compileInner (.start id direction strategy ::
      (nested ++ [Command.abort]).map (.command d.sessions.length))
    ∃ inner matched, inner.closed = true ∧
      after = { d with
        searcher := { d.searcher with matched }, sessions := d.sessions ++ [inner] } ∧
      (session.lastMatch = none ∨
          (∀ n, n = d.searcher.point ∨ n = session.origin →
            (d.searcher.matched = some ⟨n, n⟩ ↔ matched = some ⟨n, n⟩)) →
        ∀ (compile : CompileQuery) (commands : List Command) (c : Command),
          Outcome.ShowsSame inner
            ((d.run compile (commands.map (.command i))).act compile (.command i c))
            ((after.run compile (commands.map (.command i))).act compile (.command i c))) := by
  intro after
  obtain ⟨rfl, rfl, rfl, hpoint, horigin⟩ := hd.isOver
  have hstart : d.Holds (.start id direction strategy d.searcher)
      (d.startSession id direction strategy) := ⟨rfl, rfl, rfl, rfl, rfl, rfl⟩
  obtain ⟨inner, hinner⟩ := hstart.run compileInner hnested
  have hrun : after = (((d.startSession id direction strategy).run compileInner
      (nested.map (.command d.sessions.length))).act compileInner
        (.command d.sessions.length .abort)).desk := by
    change (d.startSession id direction strategy).run compileInner _ = _
    rw [List.map_append, run_append]
    rfl
  have hafter := hrun.trans (hinner.abort hpoint compileInner)
  refine ⟨_, _, rfl, hafter, fun hempty compile commands c => ?_⟩
  have hclamp := Searcher.clamp_of_le (horigin session (List.mem_of_getElem? hsession))
  have hresembles : d.Resembles i { inner with closed := true } after := by
    rw [hafter]
    refine ⟨session, hsession, rfl, _, rfl, ?_⟩
    rwa [hclamp]
  exact ((hresembles.run compile commands).command compile c).1

/-- After a match at the start of `āā` a repetition finds the next one, also if `m` has been looked
for in another session and given up. It finds none after an empty match of a blank. -/
theorem aborted_session_transparent_blank :
    let e : Engine := ⟨.ofTable ⟨[(['m', 'a'], ['m', 'ā'])]⟩, .custom, ⟨true, .pinyin⟩⟩
    let d := ((e.openSession none [] ['ā', 'ā'] 0 .forward none).act e.compileQuery
      (.command 0 (.update ['a']))).desk
    let after (query : Text) := d.run e.compileQuery (.start [] .forward .pinyin ::
      [Command.update query, Command.abort].map (.command d.sessions.length))
    let repetition (d : Desk) := (d.act e.compileQuery (.command 0 (.again none))).value
    repetition d = .ok (some 2) ∧ repetition (after ['m']) = .ok (some 2) ∧
      repetition (after [' ']) = .ok none := by
  intro e d after repetition
  have hd : Reachable ['ā', 'ā'] 0 true none d :=
    .act e.compileQuery (.act e.compileQuery (a := .start [] .forward .pinyin) .new trivial) trivial
  have hsession : d.sessions[0]? =
      some ⟨[], .forward, .pinyin, 0, ['a'], "[āáǎà]".toList, false, some 1⟩ := by decide
  have hvalue : repetition d = .ok (some 2) := by decide
  have hmatched : (after ['m']).searcher.matched = d.searcher.matched := by decide
  have hnested : ∀ c ∈ [Command.update ['m']], ¬ c.Closes := by simp [Command.Closes]
  obtain ⟨inner, matched, -, hafter, hsame⟩ := aborted_session_transparent hd hsession [] .forward
    .pinyin e.compileQuery hnested
  change after ['m'] = _ at hafter
  obtain rfl : d.searcher.matched = matched := by
    rw [← hmatched, hafter]
  have hshows := (hsame (.inr fun _ _ => Iff.rfl) e.compileQuery [] (.again none)).value
  rw [List.map_nil, run_nil, run_nil] at hshows
  exact ⟨hvalue, Eq.trans hshows hvalue, by decide⟩

end Desk

end TonelessPinyin

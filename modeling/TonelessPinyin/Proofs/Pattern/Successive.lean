import TonelessPinyin.Proofs.Pattern.Recognition

/-!
Successive matches. A match ends in the text, not before its start. Where no match is empty, the
matches of a text are what one search after another finds, each from the end of the last.
-/
namespace TonelessPinyin.Pattern

open Text

/-! ## Matches move forward -/

/-- From a place in the subject all ways lead on, and not beyond its end. -/
def Advances (subject : Array Char) (ways : Place → List Place) : Prop :=
  ∀ p, p.pos ≤ subject.size → ∀ q ∈ ways p, p.pos ≤ q.pos ∧ q.pos ≤ subject.size

section Ways

variable {subject : Array Char} {ways : Place → List Place}

theorem Advances.flatMap {onward : Place → List Place} (h : Advances subject ways)
    (hon : Advances subject onward) : Advances subject fun p => (ways p).flatMap onward := by
  intro p hp q hq
  obtain ⟨m, hm, hq⟩ := List.mem_flatMap.1 hq
  obtain ⟨hpm, hms⟩ := h p hp m hm
  obtain ⟨hmq, hqs⟩ := hon m hms q hq
  exact ⟨hpm.trans hmq, hqs⟩

theorem advances_here : Advances subject fun p => [p] := by
  intro p hp q hq
  obtain rfl := List.mem_singleton.1 hq
  exact ⟨le_rfl, hp⟩

theorem Advances.waysTimes (h : Advances subject ways) (n : Nat) :
    Advances subject (waysTimes ways n) := by
  induction n with
  | zero => exact advances_here
  | succ n ih => exact h.flatMap ih

theorem Advances.waysMore (h : Advances subject ways) (greedy : Bool) (fuel : Nat)
    (most : Option Nat) : Advances subject (waysMore greedy ways fuel most) := by
  induction fuel generalizing most with
  | zero => exact advances_here
  | succ fuel ih =>
    intro p hp q hq
    rw [Pattern.waysMore] at hq
    have honward : q ∈ (ways p).flatMap (fun m =>
        if m.pos = p.pos then [m] else Pattern.waysMore greedy ways fuel (most.map (· - 1)) m) →
        p.pos ≤ q.pos ∧ q.pos ≤ subject.size := by
      intro hq
      obtain ⟨m, hm, hq⟩ := List.mem_flatMap.1 hq
      obtain ⟨hpm, hms⟩ := h p hp m hm
      split_ifs at hq with hsame
      · obtain rfl := List.mem_singleton.1 hq
        exact ⟨hpm, hms⟩
      · obtain ⟨hmq, hqs⟩ := ih _ m hms q hq
        exact ⟨hpm.trans hmq, hqs⟩
    split_ifs at hq with hmost hgreedy
    · exact advances_here p hp q hq
    · rcases List.mem_append.1 hq with hq | hq
      · exact honward hq
      · exact advances_here p hp q hq
    · rcases List.mem_cons.1 hq with rfl | hq
      · exact ⟨le_rfl, hp⟩
      · exact honward hq

end Ways

theorem repeatsAt_le {subject : Array Char} {casing : Casing} {n : Nat} {s : Span}
    (hn : n ≤ subject.size) (h : repeatsAt subject casing n s = true) :
    n + (s.stop - s.start) ≤ subject.size := by
  rw [repeatsAt, List.all_eq_true] at h
  by_contra hlong
  have hlast := h (s.stop - s.start - 1) (List.mem_range.2 (by omega))
  have hnone : subject[n + (s.stop - s.start - 1)]? = none := Array.getElem?_eq_none (by omega)
  rw [hnone] at hlast
  split at hlast
  · next heq => cases heq
  · cases hlast

namespace Node

theorem advances (subject : Array Char) (r : Node) : Advances subject (r.ways subject) := by
  induction r with
  | empty => exact advances_here
  | one test =>
    intro p hp q hq
    rw [ways] at hq
    split at hq
    · next c hc =>
      have hlt : p.pos < subject.size := (Array.getElem?_eq_some_iff.1 hc).1
      split_ifs at hq
      · obtain rfl := List.mem_singleton.1 hq
        exact ⟨Nat.le_succ _, hlt⟩
      · cases hq
    · cases hq
  | anchor a =>
    intro p hp q hq
    rw [ways] at hq
    split_ifs at hq
    · exact advances_here p hp q hq
    · cases hq
  | seq a b iha ihb => exact iha.flatMap ihb
  | either a b iha ihb =>
    intro p hp q hq
    rcases List.mem_append.1 hq with hq | hq
    · exact iha p hp q hq
    · exact ihb p hp q hq
  | repeated least most greedy body ih =>
    exact (ih.waysTimes least).flatMap (ih.waysMore greedy _ _)
  | group index body ih =>
    intro p hp q hq
    obtain ⟨m, hm, rfl⟩ := List.mem_map.1 hq
    exact ih p hp m hm
  | again casing index =>
    intro p hp q hq
    rw [ways] at hq
    split at hq
    · next s hs =>
      split_ifs at hq with hrepeats
      · obtain rfl := List.mem_singleton.1 hq
        exact ⟨Nat.le_add_right _ _, repeatsAt_le hp hrepeats⟩
      · cases hq
    · cases hq
  | conditional index yes no ihy ihn =>
    intro p hp q hq
    rw [ways] at hq
    split_ifs at hq
    · exact ihy p hp q hq
    · exact ihn p hp q hq
  | ahead negated body _ =>
    -- looking around leads nowhere
    intro p hp q hq
    have hpos : q.pos = p.pos := by
      rw [ways] at hq
      split at hq <;> split_ifs at hq <;> simp_all
    exact ⟨hpos.ge, hpos.trans_le hp⟩
  | behind negated width body _ =>
    intro p hp q hq
    have hpos : q.pos = p.pos := by
      rw [ways] at hq
      split at hq <;> split_ifs at hq <;> simp_all
    exact ⟨hpos.ge, hpos.trans_le hp⟩
  | atomic body ih =>
    intro p hp q hq
    rw [ways, Option.mem_toList] at hq
    exact ih p hp q (List.mem_of_mem_head? hq)

theorem matchAt_bounds {r : Node} {subject : Array Char} {start stop : Nat}
    (hstart : start ≤ subject.size) (h : r.matchAt subject start = some stop) :
    start ≤ stop ∧ stop ≤ subject.size := by
  rw [matchAt_eq, Option.map_eq_some_iff] at h
  obtain ⟨q, hq, rfl⟩ := h
  exact r.advances subject ⟨start, []⟩ hstart q (List.mem_of_mem_head? hq)

/-! ## One search after another -/

variable {r : Node} {t : Text} {n : Nat}

theorem search_from (r : Node) (hn : n ≤ t.length) :
    r.search t n t.length = r.firstMatch t.toArray (t.toArray.size + 1 - n) n := by
  rw [search, List.take_length, Nat.min_eq_left hn]

/-- A search that begins at a match finds it. -/
theorem search_of_matchAt (hn : n ≤ t.length) {stop : Nat}
    (h : r.matchAt t.toArray n = some stop) : r.search t n t.length = some ⟨n, stop⟩ := by
  rw [search_from r hn, List.size_toArray, Nat.sub_add_comm hn, firstMatch, h]

theorem search_eq_none_iff (r : Node) (hn : n ≤ t.length) :
    r.search t n t.length = none ↔ ∀ m, n ≤ m → m ≤ t.length → r.matchAt t.toArray m = none := by
  have hcount : n + (t.toArray.size + 1 - n) = t.length + 1 := by
    rw [List.size_toArray]
    omega
  rw [search_from r hn, firstMatch_eq_none_iff, hcount]
  simp only [Nat.lt_succ_iff]

theorem search_bounds (hn : n ≤ t.length) {s : Span} (h : r.search t n t.length = some s) :
    n ≤ s.start ∧ s.start ≤ s.stop ∧ s.stop ≤ t.length ∧
      r.matchAt t.toArray s.start = some s.stop := by
  rw [search_from r hn] at h
  obtain ⟨hle, hlt, hmatch, -⟩ := firstMatch_eq_some h
  have hsize : t.toArray.size = t.length := List.size_toArray
  obtain ⟨hstart, hstop⟩ := matchAt_bounds (by omega) hmatch
  exact ⟨hle, hstart, hsize ▸ hstop, hmatch⟩

/-- At no position of the text does the pattern match nothing. -/
def NeverEmpty (r : Node) (t : Text) : Prop :=
  ∀ n ≤ t.length, r.matchAt t.toArray n ≠ some n

instance (r : Node) (t : Text) : Decidable (r.NeverEmpty t) :=
  inferInstanceAs (Decidable (∀ n ≤ t.length, r.matchAt t.toArray n ≠ some n))

theorem NeverEmpty.search_lt (h : r.NeverEmpty t) (hn : n ≤ t.length) {s : Span}
    (hs : r.search t n t.length = some s) : n ≤ s.start ∧ s.start < s.stop ∧ s.stop ≤ t.length := by
  obtain ⟨hle, hstart, hstop, hmatch⟩ := search_bounds hn hs
  refine ⟨hle, lt_of_le_of_ne hstart fun heq => ?_, hstop⟩
  exact h s.start (hstart.trans hstop) (hmatch.trans (congrArg some heq.symm))

/-- The finds of one search after another, each from the end of the last, until there is none. -/
inductive Successive (r : Node) (t : Text) : Nat → List Span → Prop
  | done {n : Nat} : r.search t n t.length = none → Successive r t n []
  | next {n : Nat} {s : Span} {rest : List Span} :
      r.search t n t.length = some s → Successive r t s.stop rest → Successive r t n (s :: rest)

theorem Successive.bounds (hne : r.NeverEmpty t) {spans : List Span} (h : Successive r t n spans)
    (hn : n ≤ t.length) : ∀ s ∈ spans, n ≤ s.start ∧ s.start < s.stop ∧ s.stop ≤ t.length := by
  induction h with
  | done _ => simp
  | next hs _ ih =>
    obtain ⟨hle, hlt, hstop⟩ := hne.search_lt hn hs
    intro s' hs'
    rcases List.mem_cons.1 hs' with rfl | hs'
    · exact ⟨hle, hlt, hstop⟩
    · obtain ⟨hle', hbounds⟩ := ih hstop s' hs'
      exact ⟨by omega, hbounds⟩

/-- Successive finds are in order and do not overlap. -/
theorem Successive.pairwise (hne : r.NeverEmpty t) {spans : List Span} (h : Successive r t n spans)
    (hn : n ≤ t.length) : spans.Pairwise fun a b => a.stop ≤ b.start := by
  induction h with
  | done _ => exact .nil
  | next hs hrest ih =>
    obtain ⟨-, -, hstop⟩ := hne.search_lt hn hs
    exact .cons (fun s' hs' => (hrest.bounds hne hstop s' hs').1) (ih hstop)

/-- Every match takes a character, so `count` need only exceed the characters left. -/
theorem successive_spansFrom (hne : r.NeverEmpty t) {count : Nat} (hn : n ≤ t.length)
    (hcount : t.length - n < count) : Successive r t n (r.spansFrom t.toArray count false n) := by
  induction count generalizing n with
  | zero => omega
  | succ count ih =>
    have hsearch := search_from r hn
    rw [spansFrom]
    simp only [Bool.false_eq_true, if_false, ← hsearch]
    cases hs : r.search t n t.length with
    | none => exact .done hs
    | some s =>
      obtain ⟨hle, hlt, hstop⟩ := hne.search_lt hn hs
      have hnonempty : s.isEmpty = false := by simpa [Span.isEmpty] using hlt.ne
      simp only [hnonempty]
      exact .next hs (ih hstop (by omega))

theorem successive_spans (hne : r.NeverEmpty t) : Successive r t 0 (r.spans t) :=
  successive_spansFrom hne (Nat.zero_le _) (by omega)

end Node

end TonelessPinyin.Pattern

import Mathlib.Tactic.FinCases
import TonelessPinyin.Pattern.Search
import TonelessPinyin.Proofs.Pattern.Piece

/-!
Reading the pattern that pieces spell gives back the nodes of the pieces, in order.
-/
namespace TonelessPinyin.Pattern

open Text

/-! ## Tokens -/

namespace Source

theorem next?_plain {c : Char} (hc : c ≠ '\\') (n : Nat) (rest : Text) :
    next? ⟨n, c :: rest⟩ = some (.plain c) := by
  unfold next?
  split <;> simp_all

theorem checked_eq {rest : Text} (h : rest ≠ ['\\']) (n : Nat) : checked ⟨n, rest⟩ = .ok ⟨n, rest⟩ :=
  if_neg h

theorem skip_plain {c : Char} (hc : c ≠ '\\') {rest : Text} (hr : rest ≠ ['\\']) (n : Nat) :
    skip ⟨n, c :: rest⟩ = .ok ⟨n + 1, rest⟩ := by
  rw [← checked_eq hr (n + 1)]
  unfold skip
  split <;> simp_all

theorem skip_escaped {rest : Text} (hr : rest ≠ ['\\']) (c : Char) (n : Nat) :
    skip ⟨n, '\\' :: c :: rest⟩ = .ok ⟨n + 2, rest⟩ :=
  checked_eq hr (n + 2)

theorem accept_of_head?_ne {c : Char} {rest : Text} (h : rest.head? ≠ some c)
    (n : Nat) : accept ⟨n, rest⟩ c = .ok none := by
  have hnext : isNext ⟨n, rest⟩ c = false := by
    unfold isNext next?
    split <;> simp_all
  rw [accept, hnext]
  rfl

end Source

/-! ## One piece -/

namespace State

/-- The state in which nothing but items has been read, outside of all groups. -/
def plain (caseless : Bool) (s : Source) (items : List Item) : State :=
  { State.start caseless s with items }

variable {caseless : Bool} {items : List Item} {rest : Text} {n : Nat}

@[simp] theorem plain_source (s : Source) : (plain caseless s items).source = s := rfl

theorem step_eq {st st' : State} {t : Token} {s : Source} (hnext : st.source.next? = some t)
    (hcheck : st.checkEnd t = .ok ()) (hskip : st.source.skip = .ok s)
    (hread : (match t with
      | .escaped c => (st.upTo s).escape c
      | .plain c => (st.upTo s).readPlain st.source.pos c) = .ok st') : st.step = .ok st' := by
  rw [step, hnext]
  simp only [hcheck, hskip, bind, Except.bind]
  exact hread

theorem checkEnd_plain {c : Char} (hclose : c ≠ ')') (hbar : c ≠ '|') (st : State) :
    st.checkEnd (.plain c) = .ok () := by
  simp [checkEnd, hclose, hbar]
  rfl

theorem checkEnd_escaped (c : Char) (st : State) : st.checkEnd (.escaped c) = .ok () := by
  simp [checkEnd]
  rfl

theorem escape_of_special {c : Char} (hc : c ∈ specials) (st : State) :
    st.escape c = .ok (st.pushItem (.letter c)) := by
  fin_cases hc <;> rfl

theorem readPlain_of_not_special {c : Char} (hc : c ∉ specials) (st : State)
    (hverbose : st.modes.verbose = false) (position : Nat) :
    st.readPlain position c = .ok (st.pushItem (.letter c)) := by
  simp only [specials, List.mem_cons, not_or] at hc
  unfold readPlain
  split <;> simp_all
  rfl

/-- A letter is read as itself, if it is escaped or needs no escape. -/
theorem step_letter {st : State} (hverbose : st.modes.verbose = false) {c : Char}
    (hsource : st.source = ⟨n, escapeLetter c ++ rest⟩) (hr : rest ≠ ['\\']) :
    st.step = .ok ((st.upTo ⟨n + (escapeLetter c).length, rest⟩).pushItem (.letter c)) := by
  by_cases hc : c ∈ specials
  · have hmarked : escapeLetter c = ['\\', c] := if_pos hc
    rw [hmarked] at hsource ⊢
    exact step_eq (t := .escaped c) (s := ⟨n + 2, rest⟩) (by rw [hsource]; rfl)
      (checkEnd_escaped c _) (by rw [hsource]; exact Source.skip_escaped hr c n)
      (escape_of_special hc _)
  · have hunmarked : escapeLetter c = [c] := if_neg hc
    have hne {d : Char} (hd : d ∈ specials) : c ≠ d := fun h => hc (h ▸ hd)
    rw [hunmarked] at hsource ⊢
    exact step_eq (t := .plain c) (s := ⟨n + 1, rest⟩)
      (by rw [hsource]; exact Source.next?_plain (hne (by decide)) n rest)
      (checkEnd_plain (hne (by decide)) (hne (by decide)) _)
      (by rw [hsource]; exact Source.skip_plain (hne (by decide)) hr n)
      (readPlain_of_not_special hc (st.upTo ⟨n + 1, rest⟩) hverbose _)

/-! ## Reading on -/

/-- Read on to its end, the pattern has the node. -/
def ReadsAs (st : State) (r : Node) : Prop :=
  ∀ count, st.source.rest.length ≤ count → (readAll count st >>= finish) = .ok r

namespace ReadsAs

variable {st st' : State} {r : Node}

theorem finish (hrest : st.source.rest = []) (h : st.finish = .ok r) : ReadsAs st r := by
  intro count _
  have hall : readAll count st = .ok st := by
    cases count with
    | zero => rfl
    | succ count => rw [readAll, hrest]
  rw [hall]
  exact h

theorem step (hstep : st.step = .ok st')
    (hless : st'.source.rest.length < st.source.rest.length) (h : ReadsAs st' r) :
    ReadsAs st r := by
  intro count hcount
  obtain ⟨count, rfl⟩ : ∃ k, count = k + 1 := ⟨count - 1, by omega⟩
  have hall : readAll (count + 1) st = st.step >>= readAll count := by
    rw [readAll]
    split
    · next hnil => simp [hnil] at hless
    · rfl
  rw [hall, hstep]
  exact h count (by omega)

theorem letter (hverbose : st.modes.verbose = false) {c : Char}
    (hsource : st.source = ⟨n, escapeLetter c ++ rest⟩) (hr : rest ≠ ['\\'])
    (h : ReadsAs ((st.upTo ⟨n + (escapeLetter c).length, rest⟩).push
      (.letter st.modes.casing c)) r) : ReadsAs st r := by
  have hlength : 0 < (escapeLetter c).length := by
    rw [escapeLetter]
    split_ifs <;> simp
  refine .step (step_letter hverbose hsource hr) ?_ h
  rw [hsource, List.length_append]
  exact Nat.lt_add_of_pos_left hlength

end ReadsAs

end State

/-! ## Sets -/

theorem SetItem.ofCode_toNat (c : Char) : SetItem.ofCode c.toNat = .letter c := by
  have hv : c.toNat.isValidChar := c.valid
  rw [SetItem.ofCode, if_pos hv, Char.ofNat_toNat]

/-- None of the characters has a meaning in a set. -/
def PlainInSet (letters : Text) : Prop := ∀ c ∈ letters, c ∉ [']', '-', '\\', '^']

theorem set_end_ne {letters : Text} (hl : PlainInSet letters) (rest : Text) :
    letters ++ ']' :: rest ≠ ['\\'] ∧ (letters ++ ']' :: rest).head? ≠ some '-' := by
  cases letters with
  | nil => simp
  | cons c letters =>
    have hc := hl c List.mem_cons_self
    simp only [List.mem_cons, not_or] at hc
    refine ⟨by simp, ?_⟩
    simpa using hc.2.1

theorem setItems_eq {letters rest : Text} (hl : PlainInSet letters) (hr : rest ≠ ['\\'])
    (ascii : Bool) (opened : Nat) (items : List SetItem) (hne : letters ≠ [] ∨ items ≠ [])
    (count : Nat) (hcount : letters.length < count) (n : Nat) :
    setItems ascii opened count items ⟨n, letters ++ ']' :: rest⟩ =
      .ok (items ++ letters.map .letter, ⟨n + letters.length + 1, rest⟩) := by
  induction letters generalizing items count n with
  | nil =>
    obtain ⟨count, rfl⟩ : ∃ k, count = k + 1 := ⟨count - 1, by omega⟩
    have hnext := Source.next?_plain (by decide : ']' ≠ '\\') n rest
    have hskip := Source.skip_plain (by decide : ']' ≠ '\\') hr n
    have hitems : items.isEmpty = false := by simpa using hne
    simp [setItems, hnext, hskip, hitems, bind, Except.bind, pure, Except.pure]
  | cons c letters ih =>
    obtain ⟨count, rfl⟩ : ∃ k, count = k + 1 := ⟨count - 1, by omega⟩
    have hc := hl c List.mem_cons_self
    simp only [List.mem_cons, not_or] at hc
    have hls : PlainInSet letters := fun d hd => hl d (List.mem_cons_of_mem c hd)
    obtain ⟨hback, hdash⟩ := set_end_ne hls rest
    have hnext := Source.next?_plain hc.2.2.1 n (letters ++ ']' :: rest)
    have hskip := Source.skip_plain hc.2.2.1 hback n
    -- no dash follows, so the letter is an item by itself and not the start of a range
    have haccept := Source.accept_of_head?_ne hdash (n + 1)
    have hrec := ih hls (items ++ [.letter c]) (.inr (by simp)) count
      (by simp only [List.length_cons] at hcount; omega) (n + 1)
    simp only [List.cons_append, setItems, hnext, hskip, haccept, bind, Except.bind,
      Token.plain.injEq, hc.1, decide_false, Bool.false_and, Bool.false_eq_true, if_false,
      Member.ofToken, Member.item, SetItem.ofCode_toNat, hrec]
    simp [Nat.add_comm, Nat.add_left_comm]

theorem readSet_eq {letters rest : Text} (hl : PlainInSet letters) (hne : letters ≠ [])
    (hr : rest ≠ ['\\']) (modes : Modes) (opened n : Nat) :
    readSet modes opened ⟨n, letters ++ ']' :: rest⟩ =
      .ok (.ofItems modes.casing false (letters.map SetItem.letter).eraseDups,
        ⟨n + letters.length + 1, rest⟩) := by
  have hhead : (letters ++ ']' :: rest).head? ≠ some '^' := by
    obtain ⟨c, tail, rfl⟩ := List.exists_cons_of_ne_nil hne
    have hc := hl c List.mem_cons_self
    simp only [List.mem_cons, not_or] at hc
    simpa using hc.2.2.2.1
  have haccept := Source.accept_of_head?_ne hhead n
  have hitems := setItems_eq hl hr modes.ascii opened [] (.inl hne)
    ((letters ++ ']' :: rest).length + 1)
    (by simp only [List.length_append]; omega) n
  simp only [readSet, haccept, bind, Except.bind, Option.getD_none, hitems, List.nil_append,
    Option.isSome_none, pure, Except.pure]

namespace State

variable {caseless : Bool} {items : List Item} {rest : Text} {n : Nat}

theorem step_set {letters : Text} (hl : PlainInSet letters) (hne : letters ≠ [])
    (hr : rest ≠ ['\\']) :
    (plain caseless ⟨n, VowelClasses.set letters ++ rest⟩ items).step =
      .ok ((plain caseless ⟨n + 1 + letters.length + 1, rest⟩ items).pushTest
        (testOf (Modes.start caseless).casing letters)) := by
  have hspelled : VowelClasses.set letters ++ rest = '[' :: (letters ++ ']' :: rest) := by
    simp [VowelClasses.set]
  have hback := (set_end_ne hl rest).1
  rw [hspelled]
  refine step_eq (Source.next?_plain (by decide) n _)
    (checkEnd_plain (by decide) (by decide) _) (Source.skip_plain (by decide) hback n) ?_
  have hset := readSet_eq hl hne hr (Modes.start caseless) n (n + 1)
  -- what is left of the step is the reading of the set after its bracket
  simp only [readPlain, upTo, plain_source]
  change (readSet (Modes.start caseless) n ⟨n + 1, letters ++ ']' :: rest⟩ >>= _) = _
  rw [hset]
  rfl

theorem step_category (hr : rest ≠ ['\\']) :
    (plain caseless ⟨n, '\\' :: 's' :: rest⟩ items).step =
      .ok ((plain caseless ⟨n + 2, rest⟩ items).pushItem (.category false false .blank)) :=
  step_eq rfl (checkEnd_escaped 's' _) (Source.skip_escaped hr 's' n) rfl

theorem step_star (hr : rest ≠ ['\\']) (hlazy : rest.head? ≠ some '?')
    (hpossessive : rest.head? ≠ some '+') :
    ((plain caseless ⟨n, '*' :: rest⟩ items).pushItem (.category false false .blank)).step =
      .ok (plain caseless ⟨n + 1, rest⟩
        (⟨[Piece.blanks.node (Modes.start caseless).casing], .repetition⟩ :: items)) := by
  have hstar : '*' ≠ '\\' := by decide
  refine step_eq (Source.next?_plain hstar n rest)
    (checkEnd_plain (by decide : '*' ≠ ')') (by decide) _) (Source.skip_plain hstar hr n) ?_
  have hpreference : Preference.read ⟨n + 1, rest⟩ = .ok (.greedy, ⟨n + 1, rest⟩) := by
    simp only [Preference.read, Source.accept_of_head?_ne hlazy,
      Source.accept_of_head?_ne hpossessive, bind, Except.bind]
    rfl
  change (Preference.read ⟨n + 1, rest⟩ >>= _) = _
  rw [hpreference]
  rfl

end State

/-! ## All pieces -/

/-- What the pieces spell ends no token and begins with none that belongs to a repetition. -/
theorem sourceOf_opening (ps : List Piece) :
    sourceOf ps ≠ ['\\'] ∧ (sourceOf ps).head? ≠ some '?' ∧ (sourceOf ps).head? ≠ some '+' := by
  cases ps with
  | nil => simp [sourceOf]
  | cons p ps =>
    simp only [sourceOf, List.flatMap_cons]
    cases p with
    | letter c =>
      by_cases hc : c ∈ specials
      · simp [Piece.source, escapeLetter, hc]
      · have hne {d : Char} (hd : d ∈ specials) : c ≠ d := fun h => hc (h ▸ hd)
        simp only [Piece.source, escapeLetter, if_neg hc, List.cons_append, List.head?_cons]
        exact ⟨by simp [hne (by decide : '\\' ∈ specials)],
          by simpa using hne (by decide : '?' ∈ specials),
          by simpa using hne (by decide : '+' ∈ specials)⟩
    | set letters => simp [Piece.source, VowelClasses.set]
    | blanks => simp [Piece.source, Query.blanks]

namespace State

variable {caseless : Bool} {items : List Item} {n : Nat}

/-- What is read where a piece stands. -/
def itemOf (casing : Casing) (p : Piece) : Item :=
  ⟨[p.node casing], if p.isSolid then .repeatable else .repetition⟩

/-- A piece is read, and then the pieces after it. -/
theorem ReadsAs.piece {p : Piece} (hp : p.IsPlain) {ps : List Piece} {r : Node}
    (h : ReadsAs (plain caseless ⟨n + p.source.length, sourceOf ps⟩
      (itemOf (Modes.start caseless).casing p :: items)) r) :
    ReadsAs (plain caseless ⟨n, p.source ++ sourceOf ps⟩ items) r := by
  obtain ⟨hback, hlazy, hpossessive⟩ := sourceOf_opening ps
  cases p with
  | letter c => exact .letter rfl rfl hback h
  | set letters =>
    have hl : PlainInSet letters := fun c hc => (hp.2 c hc).1
    have hlength : (Piece.set letters).source.length = 1 + letters.length + 1 := by
      simp [Piece.source, VowelClasses.set, Nat.add_comm]
    rw [hlength, ← Nat.add_assoc, ← Nat.add_assoc] at h
    refine .step (step_set hl hp.1 hback) ?_ h
    change (sourceOf ps).length < ((Piece.set letters).source ++ sourceOf ps).length
    rw [List.length_append, hlength]
    omega
  | blanks =>
    change ReadsAs (plain caseless ⟨n, '\\' :: 's' :: '*' :: sourceOf ps⟩ items) r
    refine .step (step_category (by simp)) ?_ (.step (step_star hback hlazy hpossessive) ?_ h)
    · exact Nat.lt_add_of_pos_right Nat.two_pos
    · exact Nat.lt_succ_self _

theorem readsAs_sourceOf {ps : List Piece} (hps : ∀ p ∈ ps, p.IsPlain) (caseless : Bool)
    (items : List Item) (n : Nat) :
    ReadsAs (plain caseless ⟨n, sourceOf ps⟩ items)
      (.concat (items.reverse.flatMap Item.nodes ++
        ps.map (Piece.node (Modes.start caseless).casing))) := by
  induction ps generalizing items n with
  | nil =>
    rw [List.map_nil, List.append_nil]
    exact .finish rfl rfl
  | cons p ps ih =>
    obtain ⟨hp, hps⟩ := List.forall_mem_cons.1 hps
    have hrest := ih hps (itemOf (Modes.start caseless).casing p :: items) (n + p.source.length)
    rw [List.reverse_cons, List.flatMap_append, List.flatMap_singleton, List.append_assoc] at hrest
    exact .piece hp hrest

end State

/-- The pattern that plain pieces spell is read as their nodes one after another. -/
theorem read_sourceOf {ps : List Piece} (hps : ∀ p ∈ ps, p.IsPlain) (caseless : Bool) :
    read caseless (sourceOf ps) = .ok (nodeOf (Modes.start caseless).casing ps) := by
  have hchecked : Source.ofText (sourceOf ps) = .ok ⟨0, sourceOf ps⟩ :=
    Source.checked_eq (sourceOf_opening _).1 0
  rw [read, hchecked]
  exact State.readsAs_sourceOf hps caseless [] 0 _ le_rfl

theorem prepare_sourceOf_eq {ps : List Piece} (hps : ∀ p ∈ ps, p.IsPlain) (caseless : Bool) :
    prepare caseless (sourceOf ps) = .ok (nodeOf (Modes.start caseless).casing ps) := by
  rw [prepare, read_sourceOf hps]

/-- The pattern is ready to search with, and its node recognises the language of the pieces. -/
theorem prepare_sourceOf {ps : List Piece} (hps : ∀ p ∈ ps, p.IsPlain) (caseless : Bool) :
    ∃ r, prepare caseless (sourceOf ps) = .ok r ∧
      Recognises r (languageOf (Modes.start caseless).casing ps) :=
  ⟨nodeOf (Modes.start caseless).casing ps, prepare_sourceOf_eq hps caseless,
    recognises_nodeOf hps _⟩

end TonelessPinyin.Pattern

import TonelessPinyin.Proofs.Pattern.Likeness
import TonelessPinyin.Proofs.Text.Lowered

/-!
Patterns that are a choice between words. Escaped words between bars are read as alternatives, and
alternatives are put together: what they share at their beginning is moved out, and single letters
become a set. Searches find the same as with the words tried one after another, as long as a set
compares its letters as they are compared by themselves.
-/
namespace TonelessPinyin.Pattern

open Text

/-! ## Words between bars -/

theorem escape_append_ne {rest : Text} (hr : rest ≠ ['\\']) (t : Text) :
    escape t ++ rest ≠ ['\\'] := by
  cases t with
  | nil => exact hr
  | cons c t =>
    by_cases hc : c ∈ specials
    · simp [escape, escapeLetter, hc]
    · have hne : c ≠ '\\' := fun h => hc (h ▸ by decide)
      simp [escape, escapeLetter, hc, hne]

theorem intercalate_escape_ne (words : List Text) :
    List.intercalate ['|'] (words.map escape) ≠ ['\\'] := by
  rcases words with _ | ⟨t, _ | ⟨u, words⟩⟩
  · simp
  · rw [List.map_singleton, List.intercalate_singleton, ← List.append_nil (escape t)]
    exact escape_append_ne (by simp) t
  · rw [List.map_cons, List.map_cons, List.intercalate_cons_cons, List.append_assoc]
    exact escape_append_ne (by simp) t

/-- The words letter by letter. -/
def letterNodes (casing : Casing) (words : List Text) : List (List Node) :=
  words.map fun t => t.map (.letter casing)

namespace State

/-- The state outside of all groups, after some alternatives and the nodes of the next one. -/
def among (caseless : Bool) (s : Source) (alternatives : List (List Node)) (nodes : List Node) :
    State :=
  { State.start caseless s with alternatives, items := (nodes.map (⟨[·], .repeatable⟩)).reverse }

variable {caseless : Bool} {alternatives : List (List Node)} {nodes : List Node} {r : Node}
  {rest : Text} {n : Nat}

theorem alternative_among (caseless : Bool) (s : Source) (alternatives : List (List Node))
    (nodes : List Node) : (among caseless s alternatives nodes).alternative = nodes := by
  rw [alternative, among, List.reverse_reverse, List.flatMap_map, List.flatMap_singleton']

theorem upTo_push_among (s s' : Source) (node : Node) :
    ((among caseless s alternatives nodes).upTo s').push node =
      among caseless s' alternatives (nodes ++ [node]) := by
  simp [among, start, upTo, push, pushNodes]

/-- An escaped word becomes the letters of the word. -/
theorem ReadsAs.word {t : Text} (hr : rest ≠ ['\\'])
    (h : ReadsAs (among caseless ⟨n + (Pattern.escape t).length, rest⟩ alternatives
      (nodes ++ t.map (.letter (Modes.start caseless).casing))) r) :
    ReadsAs (among caseless ⟨n, Pattern.escape t ++ rest⟩ alternatives nodes) r := by
  induction t generalizing n nodes with
  | nil => simpa [Pattern.escape] using h
  | cons c t ih =>
    have hspelled : Pattern.escape (c :: t) = escapeLetter c ++ Pattern.escape t :=
      List.flatMap_cons
    rw [hspelled, List.length_append, ← Nat.add_assoc, List.map_cons, List.append_cons] at h
    rw [hspelled, List.append_assoc]
    refine .letter rfl rfl (escape_append_ne hr t) ?_
    rw [upTo_push_among]
    exact ih h

/-- A bar ends an alternative. -/
theorem ReadsAs.bar (hr : rest ≠ ['\\'])
    (h : ReadsAs (among caseless ⟨n + 1, rest⟩ (nodes :: alternatives) []) r) :
    ReadsAs (among caseless ⟨n, '|' :: rest⟩ alternatives nodes) r := by
  rw [← alternative_among caseless ⟨n + 1, rest⟩ alternatives nodes] at h
  refine .step (step_eq (t := .plain '|') rfl rfl
    (Source.skip_plain (by decide : '|' ≠ '\\') hr n) rfl) ?_ h
  exact Nat.lt_succ_self rest.length

theorem readsAs_words (caseless : Bool) {words : List Text} (hwords : words ≠ [])
    (alternatives : List (List Node)) (n : Nat) :
    ReadsAs (among caseless ⟨n, List.intercalate ['|'] (words.map Pattern.escape)⟩ alternatives [])
      (.concat (Alternatives.join (Modes.start caseless).casing
        (alternatives.reverse ++ letterNodes (Modes.start caseless).casing words))) := by
  induction words generalizing alternatives n with
  | nil => exact absurd rfl hwords
  | cons t words ih =>
    cases words with
    | nil =>
      rw [List.map_singleton, List.intercalate_singleton, ← List.append_nil (Pattern.escape t)]
      refine .word (by simp) (.finish rfl ?_)
      change Except.ok (Node.concat
        (Alternatives.join _ (alternative _ :: alternatives).reverse)) = _
      rw [alternative_among, List.reverse_cons]
      rfl
    | cons u words =>
      have hrest := ih (List.cons_ne_nil u words)
        (t.map (.letter (Modes.start caseless).casing) :: alternatives)
        (n + (Pattern.escape t).length + 1)
      rw [List.reverse_cons, List.append_assoc] at hrest
      rw [List.map_cons, List.map_cons, List.intercalate_cons_cons, List.append_assoc]
      exact .word (by simp) (.bar (intercalate_escape_ne (u :: words)) hrest)

end State

/-- Escaped words between bars become alternatives. -/
theorem read_words (caseless : Bool) {words : List Text} (hwords : words ≠ []) :
    read caseless (List.intercalate ['|'] (words.map escape)) =
      .ok (.concat (Alternatives.join (Modes.start caseless).casing
        (letterNodes (Modes.start caseless).casing words))) := by
  have hchecked : Source.ofText (List.intercalate ['|'] (words.map escape)) =
      .ok ⟨0, List.intercalate ['|'] (words.map escape)⟩ :=
    Source.checked_eq (intercalate_escape_ne words) 0
  rw [read, hchecked]
  exact State.readsAs_words caseless hwords [] 0 _ le_rfl

/-! ## Letters -/

variable {casing : Casing} {subject : Array Char} {p : Place}

theorem ways_concat_append (rs qs : List Node) (p : Place) :
    (Node.concat (rs ++ qs)).ways subject p =
      ((Node.concat rs).ways subject p).flatMap ((Node.concat qs).ways subject) := by
  induction rs generalizing p with
  | nil => exact (List.flatMap_singleton _ p).symm
  | cons r rs ih =>
    rw [List.cons_append, ways_concat_cons, ways_concat_cons, List.flatMap_assoc, funext ih]

theorem ways_letter (c : Char) (p : Place) :
    (Node.letter casing c).ways subject p =
      if (subject[p.pos]?).any (casing.agrees c) then [p.move (p.pos + 1)] else [] := by
  rw [Node.letter, Node.ways_one]
  cases subject[p.pos]? <;> simp [CharTest.accepts]

/-- Letters match in one way at most. -/
theorem ways_letters_cases (subject : Array Char) (casing : Casing) (t : Text) (p : Place) :
    (Node.concat (t.map (.letter casing))).ways subject p = [] ∨
      ∃ q, (Node.concat (t.map (.letter casing))).ways subject p = [q] := by
  induction t generalizing p with
  | nil => exact .inr ⟨p, rfl⟩
  | cons c t ih =>
    rw [List.map_cons, ways_concat_cons, ways_letter]
    split_ifs
    · rw [List.flatMap_singleton]
      exact ih _
    · exact .inl rfl

/-! ## Sets in place of letters -/

/-- Only single letters are put into one set. -/
theorem exists_of_mapM_setItems? {words : List Text} {items : List (List SetItem)}
    (h : (letterNodes casing words).mapM Alternatives.setItems? = some items) :
    ∃ letters : Text, words = letters.map ([·]) ∧ items.flatten = letters.map .letter := by
  induction words generalizing items with
  | nil =>
    obtain rfl : [] = items := by simpa [letterNodes] using h
    exact ⟨[], rfl, rfl⟩
  | cons t words ih =>
    rw [letterNodes, List.map_cons, List.mapM_cons] at h
    obtain ⟨first, hfirst, hbind⟩ := Option.bind_eq_some_iff.1 h
    obtain ⟨rest, hrest, hitems⟩ := Option.bind_eq_some_iff.1 hbind
    obtain ⟨letters, rfl, hletters⟩ := ih hrest
    obtain rfl := Option.some.inj hitems
    rcases t with _ | ⟨c, _ | ⟨d, t⟩⟩
    · cases hfirst
    · obtain rfl := Option.some.inj hfirst
      exact ⟨c :: letters, rfl, by rw [List.flatten_cons, hletters]; rfl⟩
    · cases hfirst

/-- In a set the letters are compared as they are by themselves. -/
def SameInSet (casing : Casing) (t : Text) : Prop :=
  ∀ c ∈ t, ∀ d, (SetItem.letter c).accepts casing d = casing.agrees c d

theorem letterShapes_le_lastBasic :
    ∀ group ∈ letterShapes, ∀ n ∈ group, n ≤ SetItem.lastBasic := by
  decide

/-- Beyond the basic plane no letter has other shapes, so a small one agrees with those characters
alone of which it is the lower case. -/
theorem sameInSet_of_isLowered {t : Text} (h : IsLowered t) : SameInSet .unicode t := by
  intro c hc d
  rw [SetItem.accepts]
  split_ifs with hbasic
  · rfl
  · have hfold : fold c = c.toNat := by
      rcases fold_cases c with hone | ⟨group, hgroup, hin, -⟩
      · rw [hone, h c hc]
      · rw [h c hc] at hin
        exact absurd (letterShapes_le_lastBasic group hgroup _ hin) hbasic
    rw [Bool.eq_iff_iff, beq_iff_eq, Casing.agrees, agrees_iff, hfold]
    constructor
    · intro heq
      rw [← hfold, ← fold_lowerLetter d]
      exact congrArg fold heq
    · intro heq
      rcases fold_cases d with hone | ⟨group, hgroup, -, hin⟩
      · exact Char.toNat_inj.1 (heq.trans hone)
      · rw [← heq] at hin
        exact absurd (letterShapes_le_lastBasic group hgroup _ hin) hbasic

theorem accepts_set_of_letters {letters : Text} (h : SameInSet casing letters) (d : Char) :
    (CharTest.oneOf casing false (letters.map SetItem.letter).eraseDups).accepts d =
      letters.any (casing.agrees · d) := by
  rw [CharTest.accepts, Bool.bne_false, Bool.eq_iff_iff, List.any_eq_true, List.any_eq_true]
  constructor
  · rintro ⟨item, hitem, haccepts⟩
    obtain ⟨c, hc, rfl⟩ := List.mem_map.1 (List.mem_eraseDups.1 hitem)
    exact ⟨c, hc, h c hc d ▸ haccepts⟩
  · rintro ⟨c, hc, hagrees⟩
    refine ⟨.letter c, List.mem_eraseDups.2 (List.mem_map_of_mem hc), ?_⟩
    rw [h c hc d, hagrees]

/-! ## Alternatives put together -/

theorem head?_flatMap_ite {α β : Type} (l : List α) (P : α → Bool) (b : β) :
    (l.flatMap fun a => if P a then [b] else []).head? = if l.any P then some b else none := by
  induction l with
  | nil => rfl
  | cons a l ih => cases h : P a <;> simp [h, ih]

/-- One set for all the letters prefers the same way as the letters one after another. -/
theorem head?_ways_merge {words : List Text} (hwords : words ≠ [])
    (hsame : ∀ t ∈ words, SameInSet casing t) (subject : Array Char) (p : Place) :
    ((Alternatives.merge casing (letterNodes casing words)).ways subject p).head? =
      ((Node.choice (words.map (.word casing))).ways subject p).head? := by
  rw [Alternatives.merge]
  cases hitems : (letterNodes casing words).mapM Alternatives.setItems? with
  | none =>
    rw [letterNodes, List.map_map]
    rfl
  | some items =>
    obtain ⟨letters, rfl, hflat⟩ := exists_of_mapM_setItems? hitems
    have hletters : SameInSet casing letters := fun c hc =>
      hsame [c] (List.mem_map_of_mem hc) c List.mem_cons_self
    have hword (c : Char) : Node.word casing [c] = .letter casing c := rfl
    dsimp only
    rw [hflat, Node.ways_choice subject (by simpa using hwords), List.map_map, List.flatMap_map]
    simp only [Function.comp_apply, hword, ways_letter, head?_flatMap_ite]
    rw [Node.ways_one]
    cases subject[p.pos]? with
    | none => simp
    | some d =>
      simp only [accepts_set_of_letters hletters, Option.any_some]
      split_ifs <;> rfl

/-- What words share is a beginning of each, and what is left of them are their ends. -/
theorem exists_of_factor (casing : Casing) (t : Text) (words : List Text) :
    ∃ (common : Text) (left : List (List Node)),
      Alternatives.factor (t.map (Node.letter casing)) (letterNodes casing words) =
        (common.map (.letter casing), left) ∧
      left = letterNodes casing ((t :: words).map (·.drop common.length)) ∧
      left.map (common.map (.letter casing) ++ ·) = letterNodes casing (t :: words) := by
  have hparts := Alternatives.map_append_factor (t.map (Node.letter casing))
    (letterNodes casing words)
  generalize hfactor :
    Alternatives.factor (t.map (Node.letter casing)) (letterNodes casing words) = parts at hparts
  obtain ⟨shared, left⟩ := parts
  dsimp only at hparts
  obtain ⟨l, left, rfl⟩ : ∃ l ls, left = l :: ls :=
    List.exists_cons_of_ne_nil (by rintro rfl; cases hparts)
  have hfirst : shared ++ l = t.map (.letter casing) := (List.cons.inj hparts).1
  obtain ⟨common, rest, rfl, rfl, -⟩ := List.append_eq_map_iff.1 hfirst
  refine ⟨common, l :: left, rfl, ?_, hparts⟩
  have hdrop := congrArg (List.map (List.drop common.length)) hparts
  simpa [letterNodes, Function.comp_def, List.map_drop] using hdrop

theorem ways_choice_of_shared {words : List Text} (hwords : words ≠ []) {shared : List Node}
    {left : List (List Node)} (h : left.map (shared ++ ·) = letterNodes casing words) :
    (Node.choice (words.map (.word casing))).ways subject p =
      left.flatMap fun l => (Node.concat (shared ++ l)).ways subject p := by
  have hnodes : words.map (Node.word casing) = left.map fun l => .concat (shared ++ l) := by
    have hconcat := congrArg (List.map Node.concat) h
    rw [letterNodes, List.map_map, List.map_map] at hconcat
    exact hconcat.symm
  rw [Node.ways_choice subject (by simpa using hwords), hnodes, List.flatMap_map]

/-- Joined alternatives prefer the same way as the words one after another. -/
theorem head?_ways_join {words : List Text} (hwords : words ≠ [])
    (hsame : ∀ t ∈ words, SameInSet casing t) (subject : Array Char) (p : Place) :
    ((Node.concat (Alternatives.join casing (letterNodes casing words))).ways subject p).head? =
      ((Node.choice (words.map (.word casing))).ways subject p).head? := by
  obtain ⟨t, rest, rfl⟩ := List.exists_cons_of_ne_nil hwords
  cases rest with
  | nil => rfl
  | cons u rest =>
    obtain ⟨common, left, hfactor, hleft, hparts⟩ := exists_of_factor casing t (u :: rest)
    have hjoin : Alternatives.join casing (letterNodes casing (t :: u :: rest)) =
        common.map (.letter casing) ++ [Alternatives.merge casing left] :=
      congrArg (fun parts => parts.1 ++ [Alternatives.merge casing parts.2]) hfactor
    rw [hjoin, ways_choice_of_shared (List.cons_ne_nil _ _) hparts, ways_concat_append]
    simp only [ways_concat_append]
    -- the shared letters match in one way at most, so they may come before the alternatives
    rcases ways_letters_cases subject casing common p with hnone | ⟨q, hq⟩
    · have hnothing : (left.flatMap fun _ => []) = ([] : List Place) :=
        List.flatMap_eq_nil_iff.2 fun _ _ => rfl
      simp only [hnone, List.flatMap_nil, hnothing]
    · have hends : ∀ w ∈ (t :: u :: rest).map (·.drop common.length), SameInSet casing w := by
        intro w hw
        obtain ⟨t', ht', rfl⟩ := List.mem_map.1 hw
        exact fun c hc => hsame t' ht' c (List.mem_of_mem_drop hc)
      have hmerge := head?_ways_merge (List.cons_ne_nil _ _) hends subject q
      rw [Node.ways_choice subject (by simp), List.flatMap_map] at hmerge
      simp only [hq, List.flatMap_singleton]
      rw [hleft, letterNodes, List.flatMap_map]
      exact hmerge

/-- The pattern of words in lower case between bars finds what the words find one after another. -/
theorem exists_prepare_words {words : List Text} (hwords : words ≠ [])
    (hlowered : ∀ t ∈ words, IsLowered t) :
    ∃ r, prepare true (List.intercalate ['|'] (words.map escape)) = .ok r ∧
      ∀ t : Text, r.search t 0 t.length =
        (Node.choice (words.map (.word .unicode))).search t 0 t.length := by
  refine ⟨_, by rw [prepare, read_words true hwords], fun t => ?_⟩
  have hsame : ∀ t ∈ words, SameInSet .unicode t := fun t ht =>
    sameInSet_of_isLowered (hlowered t ht)
  rw [Node.search_whole, Node.search_whole]
  refine Node.firstMatch_congr (fun i => ?_) _ _
  rw [Node.matchAt_eq, Node.matchAt_eq]
  exact congrArg (Option.map Place.pos) (head?_ways_join hwords hsame t.toArray ⟨i, []⟩)

end TonelessPinyin.Pattern

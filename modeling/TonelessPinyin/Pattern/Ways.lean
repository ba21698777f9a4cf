import TonelessPinyin.Pattern.Matching

/-!
All ways in which a node matches from a place, in order of preference. Trying a node with the rest
of the pattern after it takes the first of these ways that the rest accepts.
-/
namespace TonelessPinyin.Pattern

/-- The ways to match a body `n` times. -/
def waysTimes (body : Place → List Place) : Nat → Place → List Place
  | 0, p => [p]
  | n + 1, p => (body p).flatMap (waysTimes body n)

/-- The ways of up to `most` further iterations, none among them. -/
def waysMore (greedy : Bool) (body : Place → List Place) : Nat → Option Nat → Place → List Place
  | 0, _, p => [p]
  | fuel + 1, most, p =>
    if most = some 0 then [p]
    else
      let onward := (body p).flatMap fun q =>
        if q.pos = p.pos then [q] else waysMore greedy body fuel (most.map (· - 1)) q
      if greedy then onward ++ [p] else p :: onward

namespace Node

def ways (subject : Array Char) : Node → Place → List Place
  | empty, p => [p]
  | one test, p =>
    match subject[p.pos]? with
    | some c => if test.accepts c then [p.move (p.pos + 1)] else []
    | none => []
  | anchor a, p => if a.holds subject p.pos then [p] else []
  | seq a b, p => (ways subject a p).flatMap (ways subject b)
  | either a b, p => ways subject a p ++ ways subject b p
  | repeated least most greedy body, p =>
    (waysTimes (ways subject body) least p).flatMap
      (waysMore greedy (ways subject body) (subject.size + 1) (most.map (· - least)))
  | group index body, p => (ways subject body p).map fun q => q.record index ⟨p.pos, q.pos⟩
  | again casing index, p =>
    match p.groups.lookup index with
    | some s =>
      if repeatsAt subject casing p.pos s then [p.move (p.pos + (s.stop - s.start))] else []
    | none => []
  | conditional index yes no, p =>
    if (p.groups.lookup index).isSome then ways subject yes p else ways subject no p
  | ahead negated body, p =>
    match (ways subject body p).head? with
    | some q => if negated then [] else [q.move p.pos]
    | none => if negated then [p] else []
  | behind negated width body, p =>
    match if width ≤ p.pos then (ways subject body (p.move (p.pos - width))).head? else none with
    | some q => if negated then [] else [q.move p.pos]
    | none => if negated then [p] else []
  | atomic body, p => (ways subject body p).head?.toList

section
variable (subject : Array Char) (p : Place)

-- The nodes that queries are made of, one equation for each.

theorem ways_empty : empty.ways subject p = [p] := rfl

theorem ways_one (test : CharTest) : (one test).ways subject p =
    match subject[p.pos]? with
    | some c => if test.accepts c then [p.move (p.pos + 1)] else []
    | none => [] := rfl

theorem ways_seq (a b : Node) :
    (seq a b).ways subject p = (a.ways subject p).flatMap (b.ways subject) := rfl

theorem ways_either (a b : Node) :
    (either a b).ways subject p = a.ways subject p ++ b.ways subject p := rfl

theorem ways_repeated (least : Nat) (most : Option Nat) (greedy : Bool) (body : Node) :
    (repeated least most greedy body).ways subject p =
      (waysTimes (body.ways subject) least p).flatMap
        (waysMore greedy (body.ways subject) (subject.size + 1) (most.map (· - least))) := rfl

end

end Node

theorem findSome?_flatMap {α β γ : Type} (f : α → List β) (k : β → Option γ) (xs : List α) :
    (xs.flatMap f).findSome? k = xs.findSome? fun a => (f a).findSome? k := by
  induction xs with
  | nil => rfl
  | cons a xs ih =>
    rw [List.flatMap_cons, List.findSome?_append, List.findSome?_cons, ih]
    cases (f a).findSome? k <;> rfl

theorem findSome?_some {α : Type} (xs : List α) : xs.findSome? some = xs.head? := by
  cases xs <;> rfl

theorem iterate_eq_findSome? {body : Place → Continuation → Option Place}
    {w : Place → List Place} (hb : ∀ p k, body p k = (w p).findSome? k) (n : Nat) (p : Place)
    (k : Continuation) : iterate body n p k = (waysTimes w n p).findSome? k := by
  induction n generalizing p with
  | zero => simp [iterate, waysTimes]
  | succ n ih => simp [iterate, waysTimes, hb, findSome?_flatMap, ih]

theorem iterateMore_eq_findSome? {greedy : Bool} {body : Place → Continuation → Option Place}
    {w : Place → List Place} (hb : ∀ p k, body p k = (w p).findSome? k) (fuel : Nat)
    (most : Option Nat) (p : Place) (k : Continuation) :
    iterateMore greedy body fuel most p k = (waysMore greedy w fuel most p).findSome? k := by
  induction fuel generalizing most p with
  | zero => simp [iterateMore, waysMore]
  | succ fuel ih =>
    by_cases hm : most = some 0
    · simp [iterateMore, waysMore, hm]
    · have onward : (body p fun q =>
          if q.pos = p.pos then k q
          else iterateMore greedy body fuel (most.map (· - 1)) q k) =
          ((w p).flatMap fun q =>
            if q.pos = p.pos then [q] else waysMore greedy w fuel (most.map (· - 1)) q).findSome? k := by
        rw [hb, findSome?_flatMap]
        congr 1
        funext q
        by_cases hq : q.pos = p.pos
        · simp [hq]
        · simp [hq, ih]
      unfold iterateMore waysMore
      rw [if_neg hm, if_neg hm]
      simp only [onward]
      cases greedy
      · simp only [Bool.false_eq_true, if_false, List.findSome?_cons]
        cases k p <;> rfl
      · simp only [if_true, List.findSome?_append, List.findSome?_cons, List.findSome?_nil]
        cases List.findSome? k _ <;> cases k p <;> rfl

theorem Node.run_eq_findSome? (subject : Array Char) (r : Node) (p : Place) (k : Continuation) :
    r.run subject p k = (r.ways subject p).findSome? k := by
  induction r generalizing p k with
  | empty => simp [run, ways]
  | one test =>
    simp only [run, ways]
    cases subject[p.pos]? with
    | none => rfl
    | some c => cases h : test.accepts c <;> simp [h]
  | anchor a => cases h : a.holds subject p.pos <;> simp [run, ways, h]
  | seq a b iha ihb => simp [run, ways, iha, ihb, findSome?_flatMap]
  | either a b iha ihb =>
    simp only [run, ways, iha, ihb, List.findSome?_append]
    cases List.findSome? k (ways subject a p) <;> rfl
  | repeated least most greedy body ih =>
    simp only [run, ways, findSome?_flatMap]
    rw [iterate_eq_findSome? ih]
    congr 1
    funext q
    exact iterateMore_eq_findSome? ih _ _ _ _
  | group index body ih => simp [run, ways, ih, List.findSome?_map, Function.comp_def]
  | again casing index =>
    simp only [run, ways]
    cases p.groups.lookup index with
    | none => rfl
    | some s => cases h : repeatsAt subject casing p.pos s <;> simp [h]
  | conditional index yes no ihy ihn =>
    simp only [run, ways]
    split
    · exact ihy p k
    · exact ihn p k
  | ahead negated body ih =>
    simp only [run, ways, ih, findSome?_some]
    cases (ways subject body p).head? <;> cases negated <;> simp
  | behind negated width body ih =>
    by_cases h : width ≤ p.pos
    · simp only [run, ways, ih, findSome?_some, h, if_true]
      cases (ways subject body (p.move (p.pos - width))).head? <;> cases negated <;> simp
    · cases negated <;> simp [run, ways, h]
  | atomic body ih =>
    simp only [run, ways, ih, findSome?_some]
    cases (ways subject body p).head? <;> simp

theorem Node.matchAt_eq (r : Node) (subject : Array Char) (start : Nat) :
    r.matchAt subject start = (r.ways subject ⟨start, []⟩).head?.map (·.pos) := by
  rw [matchAt, run_eq_findSome?, findSome?_some]

/-- The ways of an alternative come before those of the later ones. -/
theorem Node.ways_choice (subject : Array Char) {rs : List Node} (h : rs ≠ []) (p : Place) :
    (choice rs).ways subject p = rs.flatMap fun r => r.ways subject p := by
  induction rs with
  | nil => exact absurd rfl h
  | cons r rs ih =>
    cases rs with
    | nil => simp [choice]
    | cons s rs =>
      change (either r (choice (s :: rs))).ways subject p = _
      rw [ways_either, ih (List.cons_ne_nil s rs)]
      rfl

end TonelessPinyin.Pattern

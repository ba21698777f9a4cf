import TonelessPinyin.Proofs.Pattern.PieceReading

/-!
Pieces that take the same characters. Where case is disregarded, such pieces match two texts that
differ only in case at the same places.
-/
namespace TonelessPinyin.Pattern

open Text

/-! ## Nodes over two texts -/

/-- From every place the nodes match in the same ways, each in its own text. -/
def SameWays (r r' : Node) (t t' : Text) : Prop :=
  ∀ p, r.ways t.toArray p = r'.ways t'.toArray p

namespace SameWays

variable {r r' : Node} {t t' : Text}

theorem run_eq (h : SameWays r r' t t') (p : Place) (k : Continuation) :
    r.run t.toArray p k = r'.run t'.toArray p k := by
  rw [Node.run_eq_findSome?, Node.run_eq_findSome?, h p]

theorem firstMatch_eq (h : SameWays r r' t t') (count start : Nat) :
    r.firstMatch t.toArray count start = r'.firstMatch t'.toArray count start :=
  Node.firstMatch_congr (fun i => by rw [Node.matchAt, Node.matchAt, h.run_eq]) count start

theorem spansFrom_eq (h : SameWays r r' t t') (hlength : t.length = t'.length) (count : Nat)
    (afterEmpty : Bool) (start : Nat) :
    r.spansFrom t.toArray count afterEmpty start = r'.spansFrom t'.toArray count afterEmpty start := by
  induction count generalizing afterEmpty start with
  | zero => rfl
  | succ count ih =>
    have hsize : t.toArray.size = t'.toArray.size := by simpa using hlength
    simp only [Node.spansFrom, Node.matchNonemptyAt, h.run_eq, h.firstMatch_eq, hsize, ih]

theorem spans_eq (h : SameWays r r' t t') (hlength : t.length = t'.length) :
    r.spans t = r'.spans t' := by
  rw [Node.spans, Node.spans, hlength, h.spansFrom_eq hlength]

end SameWays

theorem ways_concat_cons (subject : Array Char) (r : Node) (rs : List Node) (p : Place) :
    (Node.concat (r :: rs)).ways subject p =
      (r.ways subject p).flatMap ((Node.concat rs).ways subject) := by
  cases rs with
  | nil =>
    have hempty : (Node.concat []).ways subject = fun q => [q] := rfl
    rw [hempty, List.flatMap_singleton']
    rfl
  | cons _ _ => rfl

theorem SameWays.concat {t t' : Text} {rs rs' : List Node}
    (h : List.Forall₂ (fun r r' => SameWays r r' t t') rs rs') :
    SameWays (.concat rs) (.concat rs') t t' := by
  induction h with
  | nil => exact fun _ => rfl
  | cons hr _ ih =>
    intro p
    rw [ways_concat_cons, ways_concat_cons, hr p, funext ih]

theorem SameWays.repeated {t t' : Text} {body body' : Node} (h : SameWays body body' t t')
    (hlength : t.length = t'.length) (least : Nat) (most : Option Nat) (greedy : Bool) :
    SameWays (.repeated least most greedy body) (.repeated least most greedy body') t t' := by
  intro p
  have hbody : body.ways t.toArray = body'.ways t'.toArray := funext h
  simp only [Node.ways_repeated, hbody, List.size_toArray, hlength]

/-! ## Pieces -/

/-- The texts differ only in case. -/
def SameFold (t t' : Text) : Prop := List.Forall₂ (fun c d => fold c = fold d) t t'

theorem SameFold.getElem?_cases {t t' : Text} (h : SameFold t t') (n : Nat) :
    (t[n]? = none ∧ t'[n]? = none) ∨
      ∃ c d, t[n]? = some c ∧ t'[n]? = some d ∧ fold c = fold d := by
  induction h generalizing n with
  | nil => exact .inl ⟨rfl, rfl⟩
  | @cons c d _ _ hcd _ ih =>
    cases n with
    | zero => exact .inr ⟨c, d, rfl, rfl, hcd⟩
    | succ n => exact ih n

theorem sameWays_one {test test' : CharTest} {t t' : Text} (ht : SameFold t t')
    (h : ∀ c d, fold c = fold d → test.accepts c = test'.accepts d) :
    SameWays (.one test) (.one test') t t' := by
  intro p
  simp only [Node.ways_one, List.getElem?_toArray]
  obtain ⟨hc, hd⟩ | ⟨c, d, hc, hd, hcd⟩ := ht.getElem?_cases p.pos
  · rw [hc, hd]
  · rw [hc, hd]
    simp only [h c d hcd]

namespace Piece

/-- Where case is disregarded the pieces take the same characters. -/
structure Alike (p p' : Piece) : Prop where
  isSolid : p.isSolid = p'.isSolid
  accepts : ∀ c, p.Accepts .unicode c ↔ p'.Accepts .unicode c

namespace Alike

theorem refl (p : Piece) : Alike p p := ⟨rfl, fun _ => Iff.rfl⟩

theorem symm {p p' : Piece} (h : Alike p p') : Alike p' p :=
  ⟨h.isSolid.symm, fun c => (h.accepts c).symm⟩

theorem trans {p p' p'' : Piece} (h : Alike p p') (h' : Alike p' p'') : Alike p p'' :=
  ⟨h.isSolid.trans h'.isSolid, fun c => (h.accepts c).trans (h'.accepts c)⟩

end Alike

theorem accepts_unicode_iff {p : Piece} {c : Char} :
    p.Accepts .unicode c ↔ fold c ∈ p.letters.map fold := by
  simp [Accepts, Casing.agrees, agrees]

/-- A solid piece tests one character. -/
theorem exists_test {p : Piece} (h : p.IsPlain) (hsolid : p.isSolid = true) (casing : Casing) :
    ∃ test, p.node casing = .one test ∧ ∀ c, test.accepts c = true ↔ p.Accepts casing c := by
  cases p with
  | letter c => exact ⟨_, rfl, fun d => by simp [CharTest.accepts, Accepts, letters]⟩
  | set letters => exact ⟨_, rfl, accepts_testOf_iff fun d hd => (h.2 d hd).2⟩
  | blanks => cases hsolid

theorem eq_blanks_of_not_isSolid {p : Piece} (h : p.isSolid = false) : p = .blanks := by
  cases p with
  | letter c => cases h
  | set letters => cases h
  | blanks => rfl

theorem sameWays_blanks {t t' : Text} (h : SameFold t t') :
    SameWays (blanks.node .unicode) (blanks.node .unicode) t t' := by
  refine SameWays.repeated (sameWays_one h ?_) h.length_eq 0 none true
  intro c d hcd
  simp [CharTest.accepts, SetItem.accepts, Category.contains, isBlank_eq_covered_fold, hcd]

theorem Alike.sameWays {p p' : Piece} (h : Alike p p') (hp : p.IsPlain) (hp' : p'.IsPlain)
    {t t' : Text} (ht : SameFold t t') :
    SameWays (p.node .unicode) (p'.node .unicode) t t' := by
  cases hsolid : p.isSolid with
  | true =>
    obtain ⟨test, hnode, htest⟩ := exists_test hp hsolid .unicode
    obtain ⟨test', hnode', htest'⟩ := exists_test hp' (h.isSolid.symm.trans hsolid) .unicode
    rw [hnode, hnode']
    apply sameWays_one ht
    intro c d hcd
    rw [Bool.eq_iff_iff, htest, htest', h.accepts, accepts_unicode_iff, accepts_unicode_iff, hcd]
  | false =>
    obtain rfl := eq_blanks_of_not_isSolid hsolid
    obtain rfl := eq_blanks_of_not_isSolid (h.isSolid.symm.trans hsolid)
    exact sameWays_blanks ht

end Piece

/-- Alike pieces find the same stretches of texts that differ only in case. -/
theorem spans_nodeOf_eq {ps ps' : List Piece} (hps : ∀ p ∈ ps, p.IsPlain)
    (hps' : ∀ p ∈ ps', p.IsPlain) (h : List.Forall₂ Piece.Alike ps ps') {t t' : Text}
    (ht : SameFold t t') : (nodeOf .unicode ps).spans t = (nodeOf .unicode ps').spans t' := by
  have hways : List.Forall₂ (fun r r' => SameWays r r' t t') (ps.map (Piece.node .unicode))
      (ps'.map (Piece.node .unicode)) := by
    rw [List.forall₂_map_left_iff, List.forall₂_map_right_iff]
    induction h with
    | nil => exact .nil
    | cons hp _ ih =>
      obtain ⟨hplain, hps⟩ := List.forall_mem_cons.1 hps
      obtain ⟨hplain', hps'⟩ := List.forall_mem_cons.1 hps'
      exact .cons (hp.sameWays hplain hplain' ht) (ih hps hps')
  exact (SameWays.concat hways).spans_eq ht.length_eq

end TonelessPinyin.Pattern

import TonelessPinyin.Proofs.Pattern.Recognition
import TonelessPinyin.Proofs.Text.Case
import TonelessPinyin.Query.Substitution

/-!
The pieces that compiled queries are made of: a letter, one letter of a set, and any blanks. Each
has its spelling in a pattern, its node, and its language.
-/
namespace TonelessPinyin.Pattern

open Text

inductive Piece
  | letter (c : Char)
  | set (letters : Text)
  | blanks
  deriving DecidableEq

/-- The texts of blanks. -/
def blankTexts : Language Char := {w | ∀ c ∈ w, isBlank c = true}

/-- The texts of one character that agrees with one of the letters. -/
def agreeing (casing : Casing) (letters : Text) : Language Char :=
  {w | ∃ c, (∃ d ∈ letters, casing.agrees d c = true) ∧ w = [c]}

theorem mem_blankTexts {w : Text} : w ∈ blankTexts ↔ ∀ c ∈ w, isBlank c = true := Iff.rfl

theorem mem_agreeing {casing : Casing} {letters w : Text} :
    w ∈ agreeing casing letters ↔ ∃ c, (∃ d ∈ letters, casing.agrees d c = true) ∧ w = [c] :=
  Iff.rfl

/-- The test of a character for one of the letters. -/
def testOf (casing : Casing) (letters : Text) : CharTest :=
  .ofItems casing false (letters.map .letter).eraseDups

theorem accepts_testOf_iff {casing : Casing} {letters : Text}
    (h : ∀ d ∈ letters, d.toNat ≤ SetItem.lastBasic) (c : Char) :
    (testOf casing letters).accepts c = true ↔ ∃ d ∈ letters, casing.agrees d c = true := by
  have hitems : (testOf casing letters).accepts c =
      (letters.map SetItem.letter).eraseDups.any (·.accepts casing c) := by
    rw [testOf, CharTest.ofItems.eq_def]
    -- a set of one letter is tested as that letter alone
    split
    · next d hd =>
      have hmem : d ∈ letters := by
        have : SetItem.letter d ∈ (letters.map SetItem.letter).eraseDups := by simp [hd]
        simpa [List.mem_eraseDups] using this
      simp [hd, CharTest.accepts, SetItem.accepts, h d hmem]
    · simp [CharTest.accepts]
  rw [hitems, List.any_eq_true]
  constructor
  · rintro ⟨item, hitem, hc⟩
    obtain ⟨d, hd, rfl⟩ := List.mem_map.1 (List.mem_eraseDups.1 hitem)
    exact ⟨d, hd, by simpa [SetItem.accepts, h d hd] using hc⟩
  · rintro ⟨d, hd, hc⟩
    exact ⟨.letter d, List.mem_eraseDups.2 (List.mem_map.2 ⟨d, hd, rfl⟩),
      by simpa [SetItem.accepts, h d hd] using hc⟩

namespace Piece

def source : Piece → Text
  | letter c => escapeLetter c
  | set letters => VowelClasses.set letters
  | blanks => Query.blanks

def node (casing : Casing) : Piece → Node
  | letter c => .one (.letter casing false c)
  | set letters => .one (testOf casing letters)
  | blanks => .repeated 0 none true (.one (.oneOf casing false [.category false false .blank]))

/-- The letters that a piece stands for. -/
def letters : Piece → Text
  | letter c => [c]
  | set letters => letters
  | blanks => []

def isSolid : Piece → Bool
  | blanks => false
  | _ => true

def language (casing : Casing) (p : Piece) : Language Char :=
  if p.isSolid then agreeing casing p.letters else blankTexts

/-- The character agrees with a letter of the piece. -/
def Accepts (casing : Casing) (p : Piece) (c : Char) : Prop :=
  ∃ d ∈ p.letters, casing.agrees d c = true

/-- A set has letters, all of them in the basic plane and without a meaning in a set. -/
def IsPlain : Piece → Prop
  | set letters =>
    letters ≠ [] ∧ ∀ c ∈ letters, c ∉ [']', '-', '\\', '^'] ∧ c.toNat ≤ SetItem.lastBasic
  | _ => True

instance : DecidablePred IsPlain
  | letter _ => .isTrue trivial
  | set _ => inferInstanceAs (Decidable (_ ∧ _))
  | blanks => .isTrue trivial

theorem recognises {p : Piece} (h : p.IsPlain) (casing : Casing) :
    Recognises (p.node casing) (p.language casing) := by
  have same {test : CharTest} {L : Language Char} (hL : accepted test = L) :
      Recognises (.one test) L := hL ▸ Recognises.one test
  cases p with
  | letter c =>
    apply same
    ext w
    simp [mem_accepted, language, mem_agreeing, isSolid, letters, CharTest.accepts]
  | set letters =>
    apply same
    ext w
    have hbasic : ∀ d ∈ letters, d.toNat ≤ SetItem.lastBasic := fun d hd => (h.2 d hd).2
    simp [mem_accepted, language, mem_agreeing, isSolid, Piece.letters, accepts_testOf_iff hbasic]
  | blanks =>
    have hL : allAccepted (.oneOf casing false [.category false false .blank]) = blankTexts := by
      ext w
      simp [mem_allAccepted, mem_blankTexts, CharTest.accepts, SetItem.accepts, Category.contains]
    have hr := Recognises.repeated (.oneOf casing false [.category false false .blank])
    rwa [hL] at hr

end Piece

/-! ## Lists of pieces -/

/-- The pattern that the pieces spell. -/
def sourceOf (ps : List Piece) : Text := ps.flatMap Piece.source

def nodeOf (casing : Casing) (ps : List Piece) : Node := .concat (ps.map (Piece.node casing))

def languageOf (casing : Casing) (ps : List Piece) : Language Char :=
  (ps.map (Piece.language casing)).prod

theorem sourceOf_append (ps qs : List Piece) : sourceOf (ps ++ qs) = sourceOf ps ++ sourceOf qs :=
  List.flatMap_append

theorem languageOf_append (casing : Casing) (ps qs : List Piece) :
    languageOf casing (ps ++ qs) = languageOf casing ps * languageOf casing qs := by
  simp [languageOf]

theorem languageOf_cons (casing : Casing) (p : Piece) (ps : List Piece) :
    languageOf casing (p :: ps) = p.language casing * languageOf casing ps := by
  simp [languageOf]

theorem mem_languageOf_letters_iff {casing : Casing} {t w : Text} :
    w ∈ languageOf casing (t.map .letter) ↔
      List.Forall₂ (fun c d => casing.agrees c d = true) t w := by
  induction t generalizing w with
  | nil => simp [languageOf, Language.mem_one]
  | cons c t ih =>
    have hletter (u : Text) :
        u ∈ (Piece.letter c).language casing ↔ ∃ d, casing.agrees c d = true ∧ u = [d] := by
      simp [Piece.language, Piece.isSolid, mem_agreeing, Piece.letters]
    rw [List.map_cons, languageOf_cons, Language.mem_mul]
    simp only [hletter, ih]
    constructor
    · rintro ⟨_, ⟨d, hd, rfl⟩, v, hv, rfl⟩
      exact .cons hd hv
    · intro h
      cases h with
      | @cons _ d _ v hd hv => exact ⟨[d], ⟨d, hd, rfl⟩, v, hv, rfl⟩

theorem recognises_nodeOf {ps : List Piece} (h : ∀ p ∈ ps, p.IsPlain) (casing : Casing) :
    Recognises (nodeOf casing ps) (languageOf casing ps) := by
  apply Recognises.concat
  rw [List.forall₂_map_left_iff, List.forall₂_map_right_iff, List.forall₂_same]
  exact fun p hp => Piece.recognises (h p hp) casing

/-- Without its blanks, a text of the language is matched by the solid pieces one to one. -/
theorem forall₂_accepts_of_mem {casing : Casing} {ps : List Piece}
    (hps : ∀ p ∈ ps, ∀ d ∈ p.letters, isBlank d = false) {w : Text}
    (hw : w ∈ languageOf casing ps) :
    List.Forall₂ (Piece.Accepts casing) (ps.filter Piece.isSolid) (w.filter (!isBlank ·)) := by
  induction ps generalizing w with
  | nil =>
    obtain rfl : w = [] := by simpa [languageOf] using hw
    exact .nil
  | cons p ps ih =>
    rw [languageOf_cons] at hw
    obtain ⟨u, hu, v, hv, rfl⟩ := Language.mem_mul.1 hw
    have hrest := ih (fun q hq => hps q (List.mem_cons_of_mem p hq)) hv
    rw [List.filter_append]
    cases hsolid : p.isSolid with
    | true =>
      rw [Piece.language, if_pos hsolid] at hu
      obtain ⟨c, ⟨d, hd, hdc⟩, rfl⟩ := mem_agreeing.1 hu
      have hc : isBlank c = false :=
        (isBlank_eq_of_agrees hdc).symm.trans (hps p List.mem_cons_self d hd)
      have hone : [c].filter (!isBlank ·) = [c] := by simp [hc]
      rw [List.filter_cons_of_pos hsolid, hone]
      exact .cons ⟨d, hd, hdc⟩ hrest
    | false =>
      rw [Piece.language, if_neg (by simp [hsolid])] at hu
      have hnone : u.filter (!isBlank ·) = [] := by
        simpa [List.filter_eq_nil_iff] using mem_blankTexts.1 hu
      rw [List.filter_cons_of_neg (by simp [hsolid]), hnone]
      exact hrest

/-- A text without blanks is in the language just if the solid pieces match it one to one. -/
theorem mem_languageOf_iff_forall₂ {casing : Casing} {ps : List Piece}
    (hps : ∀ p ∈ ps, ∀ d ∈ p.letters, isBlank d = false) {w : Text}
    (hw : ∀ c ∈ w, isBlank c = false) :
    w ∈ languageOf casing ps ↔
      List.Forall₂ (Piece.Accepts casing) (ps.filter Piece.isSolid) w := by
  have hsame : w.filter (!isBlank ·) = w := by simpa [List.filter_eq_self] using hw
  constructor
  · intro h
    exact hsame ▸ forall₂_accepts_of_mem hps h
  intro h
  clear hsame hw
  -- a set takes one character each, and blanks may be left out everywhere
  induction ps generalizing w with
  | nil =>
    cases h
    simp [languageOf]
  | cons p ps ih =>
    have hps' := fun q hq => hps q (List.mem_cons_of_mem p hq)
    rw [languageOf_cons]
    cases hsolid : p.isSolid with
    | true =>
      rw [List.filter_cons_of_pos hsolid] at h
      cases h with
      | @cons _ c _ v hc hv =>
        refine Language.append_mem_mul (a := [c]) ?_ (ih hps' hv)
        rw [Piece.language, if_pos hsolid]
        exact ⟨c, hc, rfl⟩
    | false =>
      rw [List.filter_cons_of_neg (by simp [hsolid])] at h
      refine Language.append_mem_mul (a := []) ?_ (ih hps' h)
      rw [Piece.language, if_neg (by simp [hsolid])]
      simp [mem_blankTexts]

end TonelessPinyin.Pattern

/-!
Texts. A text is the list of its characters, so a position in it is a count of characters.
-/
namespace TonelessPinyin

abbrev Text := List Char

namespace Text

/-- The characters from `start` up to, not including, `stop`. -/
def slice (t : Text) (start stop : Nat) : Text := (t.take stop).drop start

theorem slice_length (t : Text) (start stop : Nat) :
    (t.slice start stop).length = min stop t.length - start := by
  simp [slice]

def asString (t : Text) : String := String.ofList t

/-- The parts between the separators; one more part than separators. -/
def separatedBy (separator : Char) : Text → List Text
  | [] => [[]]
  | c :: t =>
    match separatedBy separator t with
    | part :: parts => if c = separator then [] :: part :: parts else (c :: part) :: parts
    | [] => [[c]]

/-- Lexicographic order by code point. -/
def before : Text → Text → Bool
  | _, [] => false
  | [], _ :: _ => true
  | c :: a, d :: b => if c = d then before a b else c.toNat < d.toNat

/-- `a` goes ahead of `b` where longer texts are tried first and equally long ones in order. -/
def goesAhead (a b : Text) : Bool :=
  if a.length = b.length then before a b else b.length < a.length

def insertLongest (t : Text) : List Text → List Text
  | [] => [t]
  | u :: rest => if goesAhead u t then u :: insertLongest t rest else t :: u :: rest

/-- Longest first, so that no text is tried after a shorter beginning of it. -/
def sortLongest (texts : List Text) : List Text := texts.foldr insertLongest []

theorem mem_insertLongest {t u : Text} {texts : List Text} :
    u ∈ insertLongest t texts ↔ u = t ∨ u ∈ texts := by
  induction texts with
  | nil => simp [insertLongest]
  | cons v rest ih =>
    by_cases h : goesAhead v t = true
    · simpa [insertLongest, h, ih] using or_left_comm
    · simp [insertLongest, h]

theorem mem_sortLongest {u : Text} {texts : List Text} : u ∈ sortLongest texts ↔ u ∈ texts := by
  induction texts with
  | nil => rfl
  | cons t rest ih => exact mem_insertLongest.trans (by rw [List.mem_cons]; exact or_congr_right ih)

theorem length_le_of_goesAhead {t u : Text} (h : goesAhead t u = true) : u.length ≤ t.length := by
  by_cases hlength : t.length = u.length
  · omega
  · simp [goesAhead, hlength] at h
    omega

theorem length_le_of_not_goesAhead {t u : Text} (h : ¬goesAhead t u = true) :
    t.length ≤ u.length := by
  by_cases hlength : t.length = u.length
  · omega
  · simpa [goesAhead, hlength] using h

theorem pairwise_insertLongest {texts : List Text} (t : Text)
    (h : texts.Pairwise fun a b => b.length ≤ a.length) :
    (insertLongest t texts).Pairwise fun a b => b.length ≤ a.length := by
  induction texts with
  | nil => exact List.pairwise_singleton _ t
  | cons u texts ih =>
    obtain ⟨hu, htexts⟩ := List.pairwise_cons.1 h
    by_cases hahead : goesAhead u t = true
    · rw [insertLongest, if_pos hahead]
      refine List.pairwise_cons.2 ⟨?_, ih htexts⟩
      intro v hv
      rcases mem_insertLongest.1 hv with rfl | hv
      · exact length_le_of_goesAhead hahead
      · exact hu v hv
    · rw [insertLongest, if_neg hahead]
      have hlength := length_le_of_not_goesAhead hahead
      refine List.pairwise_cons.2 ⟨?_, h⟩
      intro v hv
      rcases List.mem_cons.1 hv with rfl | hv
      · exact hlength
      · exact Nat.le_trans (hu v hv) hlength

theorem pairwise_sortLongest (texts : List Text) :
    (sortLongest texts).Pairwise fun a b => b.length ≤ a.length := by
  induction texts with
  | nil => exact .nil
  | cons t texts ih => exact pairwise_insertLongest t ih

end Text

/-- A stretch of a text. -/
structure Span where
  start : Nat
  stop : Nat
  deriving DecidableEq

namespace Span

def isEmpty (s : Span) : Bool := s.start == s.stop

def of (s : Span) (t : Text) : Text := t.slice s.start s.stop

end Span

end TonelessPinyin

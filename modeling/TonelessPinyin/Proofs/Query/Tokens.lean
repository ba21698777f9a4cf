import TonelessPinyin.Proofs.Query.Spacing

/-!
How a text is taken apart, over any vowel classes. From left to right a run of blanks, the longest
vowel that begins there or else one character is read as one part. Each part has one token, and
tokens of blanks stand where the text has blanks or, from its third character on, before any other
token.
-/
namespace TonelessPinyin

open Text Pattern VowelClasses

/-! ## The longest vowel -/

namespace VowelClasses

/-- A vowel of the classes stands at the beginning of the text, in either case. -/
def Begins (classes : VowelClasses) (t key : Text) : Prop :=
  key ∈ classes.classes.keys ∧ key.length ≤ t.length ∧ lower (t.take key.length) = key

theorem begins_iff {classes : VowelClasses} {t key : Text} :
    classes.Begins t key ↔ key ∈ sortLongest classes.classes.keys ∧ beginsWith key t = true := by
  simp [Begins, beginsWith, mem_sortLongest]

theorem longest?_eq_none_iff {classes : VowelClasses} {t : Text} :
    classes.longest? t = none ↔ ∀ key, ¬classes.Begins t key := by
  simp only [longest?, List.find?_eq_none, begins_iff, not_and]

theorem longest?_eq_some {classes : VowelClasses} {t key : Text}
    (h : classes.longest? t = some key) :
    classes.Begins t key ∧ ∀ other, classes.Begins t other → other.length ≤ key.length := by
  obtain ⟨hbegins, before, after, hsplit, hbefore⟩ := List.find?_eq_some_iff_append.1 h
  have hmem : key ∈ sortLongest classes.classes.keys := by simp [hsplit]
  refine ⟨begins_iff.2 ⟨hmem, hbegins⟩, ?_⟩
  intro other hother
  obtain ⟨hothermem, hotherbegins⟩ := begins_iff.1 hother
  have hsorted := pairwise_sortLongest classes.classes.keys
  rw [hsplit, List.pairwise_append] at hsorted
  rw [hsplit, List.mem_append, List.mem_cons] at hothermem
  rcases hothermem with hmem | rfl | hmem
  · have hnot := hbefore other hmem
    rw [hotherbegins] at hnot
    cases hnot
  · exact le_rfl
  · exact (List.pairwise_cons.1 hsorted.2.1).1 other hmem

end VowelClasses

namespace Query

/-! ## Parts -/

/-- What is read as one: blanks, a vowel of the classes, or any other character; or nothing, where
blanks are allowed that the text does not have. -/
inductive Part
  | gap
  | run (blanks : Text)
  | vowel (key surface : Text)
  | letter (c : Char)
  deriving DecidableEq

namespace Part

def surface : Part → Text
  | gap => []
  | run blanks => blanks
  | vowel _ surface => surface
  | letter c => [c]

def isBlank : Part → Bool
  | gap => true
  | run _ => true
  | vowel _ _ => false
  | letter _ => false

/-- The token of a part. -/
def pattern (classes : VowelClasses) : Part → Text
  | gap => blanks
  | run _ => blanks
  | vowel key surface => inCaseOf surface ((classes.classes.get? key).getD [])
  | letter c => escapeLetter c

/-- What the part is, with the rest of the text after it. A run of blanks goes on as long as there
are any, a vowel is the longest that begins here, and a letter begins no vowel. -/
def Fits (classes : VowelClasses) (rest : Text) : Part → Prop
  | gap => rest.head?.any Text.isBlank = false ∧ rest ≠ []
  | run blanks => IsGap blanks ∧ rest.head?.any Text.isBlank = false
  | vowel key surface =>
    surface.head?.any Text.isBlank = false ∧ surface.length = key.length ∧
      classes.Begins (surface ++ rest) key ∧
      ∀ other, classes.Begins (surface ++ rest) other → other.length ≤ key.length
  | letter c => Text.isBlank c = false ∧ ∀ key, ¬classes.Begins (c :: rest) key

end Part

/-- The text that the parts are read from. -/
def surfaceOf (parts : List Part) : Text := parts.flatMap Part.surface

def endsBlank (parts : List Part) : Bool := parts.getLast?.any Part.isBlank

/-- Where a part may stand. Only blanks have the token of blanks. Two of these are never adjacent,
and any other token has one before it just if blanks stand before it in the text, or if it begins at
the third character of the text or later. -/
structure IsPlaced (classes : VowelClasses) (t : Text) (before : List Part) (part : Part)
    (after : List Part) : Prop where
  blanks_iff : part.pattern classes = blanks ↔ part.isBlank = true
  fits : part.Fits classes (surfaceOf after)
  apart : part.isBlank = true → endsBlank before = false
  spaced : part.isBlank = false → (endsBlank before = true ↔
    (surfaceOf before).getLast?.any Text.isBlank = true ∨
      1 < t.length ∧ 2 ≤ (surfaceOf before).length)

/-! ## The loop -/

/-- The loop of substitution: after so many rounds it ends with these tokens. -/
inductive Loop (classes : VowelClasses) (tolerant : Bool) :
    Nat → Nat → List Text → Text → List Text → Prop
  | stop {index : Nat} {done : List Text} : Loop classes tolerant 0 index done [] done.reverse
  | blank {rounds index : Nat} {done result : List Text} {c : Char} {t : Text}
      (hc : isBlank c = true)
      (h : Loop classes tolerant rounds (index + 1)
        (if done.head? = some blanks then done else blanks :: done) t result) :
      Loop classes tolerant (rounds + 1) index done (c :: t) result
  | token {rounds index : Nat} {done result : List Text} {c : Char} {t : Text}
      (hc : isBlank c = false)
      (h : Loop classes tolerant rounds (index + (leading classes c t).2)
        ((leading classes c t).1 ::
          if tolerant && 2 ≤ index && done.head?.any (· != blanks) then blanks :: done else done)
        ((c :: t).drop (leading classes c t).2) result) :
      Loop classes tolerant (rounds + 1) index done (c :: t) result

theorem Loop.tokensFrom_eq {classes : VowelClasses} {tolerant : Bool} {rounds index : Nat}
    {done result : List Text} {t : Text} (h : Loop classes tolerant rounds index done t result)
    {count : Nat} (hcount : rounds ≤ count) :
    tokensFrom classes blanks tolerant count index done t = result := by
  induction h generalizing count with
  | stop => cases count <;> rfl
  | blank hc _ ih =>
    obtain ⟨count, rfl⟩ := Nat.exists_eq_add_of_le' (Nat.le_trans (Nat.succ_pos _) hcount)
    rw [tokensFrom, if_pos hc]
    exact ih (Nat.le_of_succ_le_succ hcount)
  | token hc _ ih =>
    obtain ⟨count, rfl⟩ := Nat.exists_eq_add_of_le' (Nat.le_trans (Nat.succ_pos _) hcount)
    rw [tokensFrom, if_neg (by simp [hc])]
    exact ih (Nat.le_of_succ_le_succ hcount)

/-- More blanks of a run add no token. -/
theorem Loop.blanks {classes : VowelClasses} {tolerant : Bool} {rounds index : Nat}
    {done result : List Text} {run t : Text} (hrun : ∀ c ∈ run, isBlank c = true)
    (hdone : done.head? = some Query.blanks)
    (h : Loop classes tolerant rounds (index + run.length) done t result) :
    Loop classes tolerant (rounds + run.length) index done (run ++ t) result := by
  induction run generalizing index with
  | nil => exact h
  | cons c run ih =>
    obtain ⟨hc, hrun⟩ := List.forall_mem_cons.1 hrun
    refine .blank hc ?_
    rw [if_pos hdone]
    refine ih hrun ?_
    rwa [List.length_cons, Nat.add_comm run.length, ← Nat.add_assoc] at h

/-! ## What has been read -/

/-- The table of the classes: its keys are lowered, none is empty, and no pattern is that of
blanks, in either case. -/
structure IsTable (classes : VowelClasses) : Prop where
  lowered : ∀ key ∈ classes.classes.keys, lower key = key
  nonempty : [] ∉ classes.classes.keys
  solid : ∀ p ∈ classes.classes, p.2 ≠ blanks ∧ upper p.2 ≠ blanks

/-- The parts are what has been read of the text before `rest`. -/
structure IsReadTo (classes : VowelClasses) (t : Text) (parts : List Part) (rest : Text) :
    Prop where
  covers : surfaceOf parts ++ rest = t
  blanks_iff : ∀ part ∈ parts, part.pattern classes = blanks ↔ part.isBlank = true
  blank_of_endsBlank : endsBlank parts = true →
    (surfaceOf parts).getLast?.any Text.isBlank = true ∧ rest.head?.any Text.isBlank = false
  endsBlank_of_blank : (surfaceOf parts).getLast?.any Text.isBlank = true →
    endsBlank parts = true ∨ 2 ≤ (surfaceOf parts).length

theorem surfaceOf_append (parts more : List Part) :
    surfaceOf (parts ++ more) = surfaceOf parts ++ surfaceOf more := List.flatMap_append

theorem surfaceOf_singleton (part : Part) : surfaceOf [part] = part.surface :=
  List.flatMap_singleton _ part

theorem surfaceOf_gaps {gaps : List Part} (h : ∀ p ∈ gaps, p = .gap) : surfaceOf gaps = [] :=
  List.flatMap_eq_nil_iff.2 fun p hp => by
    rw [h p hp]
    rfl

theorem endsBlank_concat (parts : List Part) (part : Part) :
    endsBlank (parts ++ [part]) = part.isBlank := by simp [endsBlank]

/-- The tokens of the parts, latest first. -/
def doneOf (classes : VowelClasses) (parts : List Part) : List Text :=
  (parts.map (Part.pattern classes)).reverse

theorem doneOf_concat (classes : VowelClasses) (parts : List Part) (part : Part) :
    doneOf classes (parts ++ [part]) = part.pattern classes :: doneOf classes parts := by
  simp [doneOf]

variable {classes : VowelClasses} {t rest : Text} {parts : List Part}

theorem IsReadTo.start (classes : VowelClasses) (t : Text) : IsReadTo classes t [] t where
  covers := rfl
  blanks_iff := by simp
  blank_of_endsBlank := by simp [endsBlank]
  endsBlank_of_blank := by simp [surfaceOf]

namespace IsReadTo

theorem head?_doneOf (h : IsReadTo classes t parts rest) :
    (doneOf classes parts).head? = some blanks ↔ endsBlank parts = true := by
  rw [doneOf, List.head?_reverse, List.getLast?_map, endsBlank, Option.map_eq_some_iff,
    Option.any_eq_true]
  refine exists_congr fun part => and_congr_right fun hpart => ?_
  exact h.blanks_iff part (List.mem_of_mem_getLast? hpart)

theorem run {run : Text} (h : IsReadTo classes t parts (run ++ rest)) (hrun : IsGap run)
    (hrest : rest.head?.any Text.isBlank = false) :
    IsReadTo classes t (parts ++ [.run run]) rest := by
  have hlast : (surfaceOf (parts ++ [.run run])).getLast?.any Text.isBlank = true := by
    rw [surfaceOf_append, surfaceOf_singleton]
    change (surfaceOf parts ++ run).getLast?.any _ = true
    rw [List.getLast?_append_of_ne_nil _ hrun.1, List.getLast?_eq_some_getLast hrun.1]
    exact hrun.2 _ (List.getLast_mem hrun.1)
  refine ⟨?_, ?_, fun _ => ⟨hlast, hrest⟩, fun _ => .inl (endsBlank_concat parts _)⟩
  · rw [surfaceOf_append, surfaceOf_singleton, List.append_assoc]
    exact h.covers
  · rw [List.forall_mem_append, List.forall_mem_singleton]
    exact ⟨h.blanks_iff, iff_of_true rfl rfl⟩

/-- Blanks before the part may be allowed or not. -/
theorem solid {gaps : List Part} {part : Part} (h : IsReadTo classes t parts (part.surface ++ rest))
    (hgaps : ∀ p ∈ gaps, p = .gap) (hsolid : part.isBlank = false)
    (hpattern : part.pattern classes ≠ blanks)
    (hfirst : ∃ c ∈ part.surface.head?, Text.isBlank c = false) :
    IsReadTo classes t (parts ++ gaps ++ [part]) rest := by
  have hends : endsBlank (parts ++ gaps ++ [part]) = false := by rw [endsBlank_concat, hsolid]
  refine ⟨?_, ?_, ?_, ?_⟩
  · rw [surfaceOf_append, surfaceOf_append, surfaceOf_singleton, surfaceOf_gaps hgaps,
      List.append_nil, List.append_assoc]
    exact h.covers
  · rw [List.forall_mem_append, List.forall_mem_append, List.forall_mem_singleton]
    refine ⟨⟨h.blanks_iff, ?_⟩, iff_of_false hpattern (by simp [hsolid])⟩
    intro p hp
    rw [hgaps p hp]
    exact iff_of_true rfl rfl
  · rw [hends]
    rintro ⟨⟩
  · intro hblank
    refine .inr ?_
    obtain ⟨c, hc, hcblank⟩ := hfirst
    obtain ⟨surface, hpart⟩ := List.head?_eq_some_iff.1 hc
    rw [surfaceOf_append, surfaceOf_singleton, hpart] at hblank ⊢
    cases surface with
    | nil =>
      -- the only character of the part is not a blank
      rw [List.getLast?_concat] at hblank
      simp [hcblank] at hblank
    | cons d surface =>
      simp only [List.length_append, List.length_cons]
      omega

end IsReadTo

/-! ## One token -/

/-- What is taken at a character that is not a blank, and the text after it. -/
structure Leads (classes : VowelClasses) (c : Char) (t : Text) (part : Part) (rest : Text) :
    Prop where
  split : c :: t = part.surface ++ rest
  head : part.surface.head? = some c
  leading : leading classes c t = (part.pattern classes, part.surface.length)
  isBlank_eq : part.isBlank = false
  pattern_ne : part.pattern classes ≠ blanks
  fits : part.Fits classes rest

/-- A character at least is taken. -/
theorem Leads.length_rest_lt {c : Char} {part : Part} (h : Leads classes c t part rest) :
    rest.length < (c :: t).length := by
  obtain ⟨_, hsurface⟩ := List.head?_eq_some_iff.1 h.head
  rw [h.split, hsurface, List.length_append, List.length_cons]
  omega

/-- Where no vowel begins, the character is taken. -/
theorem leads_letter {c : Char} (hc : isBlank c = false)
    (hlongest : classes.longest? (c :: t) = none) : Leads classes c t (.letter c) t where
  split := rfl
  head := rfl
  leading := by
    rw [leading, hlongest]
    rfl
  isBlank_eq := rfl
  pattern_ne := by
    intro heq
    have hlength := congrArg List.length heq
    by_cases hspecial : c ∈ specials <;>
      simp [Part.pattern, escapeLetter, hspecial, blanks] at hlength
  fits := ⟨hc, longest?_eq_none_iff.1 hlongest⟩

/-- As the keys are in lower case, the longest vowel is found under itself. -/
theorem leads_vowel (hclasses : IsTable classes) {c : Char} (hc : isBlank c = false) {key : Text}
    (hlongest : classes.longest? (c :: t) = some key) :
    Leads classes c t (.vowel key ((c :: t).take key.length)) ((c :: t).drop key.length) := by
  obtain ⟨⟨hkey, hlength, hlower⟩, hlonger⟩ := longest?_eq_some hlongest
  have hpositive : key ≠ [] := fun hnil => hclasses.nonempty (hnil ▸ hkey)
  obtain ⟨n, hn⟩ := Nat.exists_eq_succ_of_ne_zero (mt List.length_eq_zero_iff.1 hpositive)
  have hsurface : ((c :: t).take key.length).length = key.length := List.length_take_of_le hlength
  have hhead : ((c :: t).take key.length).head? = some c := by rw [hn]; rfl
  obtain ⟨fragment, hget, hentry⟩ := Entries.get?_of_mem_keys hkey
  have hsplit := List.take_append_drop key.length (c :: t)
  refine ⟨hsplit.symm, hhead, ?_, rfl, ?_, ?_⟩
  · simp only [leading, hlongest, find, hclasses.lowered key hkey, hget, Part.pattern,
      Part.surface, hsurface, Option.getD_some]
  · obtain ⟨hplain, hupper⟩ := hclasses.solid _ hentry
    rw [Part.pattern, hget, Option.getD_some, inCaseOf]
    split_ifs
    · exact hupper
    · exact hplain
  · refine ⟨by simp [hhead, hc], hsurface, ?_, ?_⟩
    · rw [hsplit]
      exact ⟨hkey, hlength, hlower⟩
    · rwa [hsplit]

theorem exists_leads (hclasses : IsTable classes) {c : Char} (hc : isBlank c = false) (t : Text) :
    ∃ part rest, Leads classes c t part rest := by
  cases hlongest : classes.longest? (c :: t) with
  | none => exact ⟨_, _, leads_letter hc hlongest⟩
  | some key => exact ⟨_, _, leads_vowel hclasses hc hlongest⟩

/-! ## All tokens -/

/-- The parts may stand where they do, after those that are before them. -/
def AllPlaced (classes : VowelClasses) (t : Text) : List Part → List Part → Prop
  | _, [] => True
  | before, part :: after =>
    IsPlaced classes t before part after ∧ AllPlaced classes t (before ++ [part]) after

theorem AllPlaced.isPlaced {before parts : List Part} (h : AllPlaced classes t before parts) :
    ∀ middle part after, parts = middle ++ part :: after →
      IsPlaced classes t (before ++ middle) part after := by
  induction parts generalizing before with
  | nil => simp
  | cons first parts ih =>
    obtain ⟨hfirst, hrest⟩ := h
    rintro (_ | ⟨p, middle⟩) part after heq
    · obtain ⟨rfl, rfl⟩ := List.cons.inj heq
      rwa [List.append_nil]
    · obtain ⟨rfl, rfl⟩ := List.cons.inj heq
      have hplaced := ih hrest middle part after rfl
      rwa [List.append_assoc] at hplaced

/-- What is left to read, after what has been read. -/
structure Continues (classes : VowelClasses) (t : Text) (before parts : List Part) (rest : Text) :
    Prop where
  covers : surfaceOf parts = rest
  placed : AllPlaced classes t before parts
  loop : ∃ rounds ≤ rest.length, Loop classes (1 < t.length) rounds (surfaceOf before).length
    (doneOf classes before) rest ((before ++ parts).map (Part.pattern classes))

namespace Continues

variable {before : List Part}

theorem nil (classes : VowelClasses) (t : Text) (before : List Part) :
    Continues classes t before [] [] where
  covers := rfl
  placed := trivial
  loop := by
    refine ⟨0, le_rfl, ?_⟩
    have hresult : (before ++ []).map (Part.pattern classes) = (doneOf classes before).reverse := by
      rw [doneOf, List.reverse_reverse, List.append_nil]
    rw [hresult]
    exact .stop

/-- A run of blanks is one token. -/
theorem run {run : Text} (hread : IsReadTo classes t before (run ++ rest)) (hrun : IsGap run)
    (hrest : rest.head?.any Text.isBlank = false)
    (h : Continues classes t (before ++ [.run run]) parts rest) :
    Continues classes t before (.run run :: parts) (run ++ rest) := by
  obtain ⟨c, blanks, rfl, hc⟩ := hrun.exists_eq_cons
  have hapart : endsBlank before = false := by
    by_contra hends
    have hhead := (hread.blank_of_endsBlank (Bool.eq_true_of_not_eq_false hends)).2
    simp [hc] at hhead
  refine ⟨?_, ⟨⟨iff_of_true rfl rfl, ⟨hrun, ?_⟩, fun _ => hapart, nofun⟩, h.placed⟩, ?_⟩
  · exact congrArg (c :: blanks ++ ·) h.covers
  · rw [h.covers]
    exact hrest
  · obtain ⟨rounds, hrounds, hloop⟩ := h.loop
    have hnew : (doneOf classes before).head? ≠ some Query.blanks := by
      rw [Ne, hread.head?_doneOf, hapart]
      exact Bool.false_ne_true
    refine ⟨rounds + blanks.length + 1, ?_, .blank hc ?_⟩
    · rw [List.length_append, List.length_cons]
      omega
    · rw [if_neg hnew]
      refine .blanks (List.forall_mem_cons.1 hrun.2).2 rfl ?_
      rw [List.append_assoc, List.singleton_append, surfaceOf_append, surfaceOf_singleton,
        doneOf_concat, List.length_append] at hloop
      change Loop _ _ _ (_ + (c :: blanks).length) _ _ _ at hloop
      rwa [List.length_cons, Nat.add_comm blanks.length, ← Nat.add_assoc] at hloop

/-- Blanks are allowed before a token that is not one of blanks. -/
def gapsBefore (t : Text) (before : List Part) : List Part :=
  if 1 < t.length ∧ 2 ≤ (surfaceOf before).length ∧ endsBlank before = false then [.gap] else []

theorem eq_gap_of_mem_gapsBefore {p : Part} (hp : p ∈ gapsBefore t before) : p = .gap := by
  rw [gapsBefore] at hp
  split_ifs at hp
  · exact List.mem_singleton.1 hp
  · cases hp

theorem surfaceOf_gapsBefore (t : Text) (before : List Part) :
    surfaceOf (gapsBefore t before) = [] :=
  surfaceOf_gaps fun _ => eq_gap_of_mem_gapsBefore

theorem surfaceOf_append_gapsBefore (t : Text) (before : List Part) :
    surfaceOf (before ++ gapsBefore t before) = surfaceOf before := by
  rw [surfaceOf_append, surfaceOf_gapsBefore, List.append_nil]

theorem doneOf_append_gapsBefore (hread : IsReadTo classes t before rest) :
    doneOf classes (before ++ gapsBefore t before) =
      if decide (1 < t.length) && decide (2 ≤ (surfaceOf before).length) &&
        (doneOf classes before).head?.any (· != blanks) then blanks :: doneOf classes before
      else doneOf classes before := by
  by_cases hlong : 1 < t.length ∧ 2 ≤ (surfaceOf before).length
  · have hne : doneOf classes before ≠ [] := by
      intro hnil
      obtain rfl : before = [] := by simpa [doneOf] using hnil
      exact absurd hlong.2 (by simp [surfaceOf])
    have hlast : (doneOf classes before).head?.any (· != blanks) = !endsBlank before := by
      rw [head?_any_ne_eq hne, Bool.eq_iff_iff]
      simp [hread.head?_doneOf]
    rw [gapsBefore, hlast]
    cases hends : endsBlank before <;> simp [hlong, doneOf, Part.pattern]
  · have hshort : (decide (1 < t.length) && decide (2 ≤ (surfaceOf before).length)) = false := by
      simpa using hlong
    rw [gapsBefore, if_neg (by tauto), hshort, Bool.false_and, List.append_nil]
    rfl

theorem endsBlank_append_gapsBefore (hread : IsReadTo classes t before rest) :
    endsBlank (before ++ gapsBefore t before) = true ↔
      (surfaceOf before).getLast?.any Text.isBlank = true ∨
        1 < t.length ∧ 2 ≤ (surfaceOf before).length := by
  rw [gapsBefore]
  split_ifs with hgap
  · exact iff_of_true (endsBlank_concat before _) (.inr ⟨hgap.1, hgap.2.1⟩)
  · rw [List.append_nil]
    constructor
    · exact fun hends => .inl (hread.blank_of_endsBlank hends).1
    · intro h
      by_contra hends
      have hshort : ¬(1 < t.length ∧ 2 ≤ (surfaceOf before).length) := fun hlong =>
        hgap ⟨hlong.1, hlong.2, Bool.eq_false_iff.2 hends⟩
      -- a text is longer than what has been read of it
      have hlength : (surfaceOf before).length ≤ t.length := by
        rw [← hread.covers, List.length_append]
        exact Nat.le_add_right _ _
      rcases h with hblank | hlong
      · rcases hread.endsBlank_of_blank hblank with hends' | hlong
        · exact hends hends'
        · exact hshort ⟨by omega, hlong⟩
      · exact hshort hlong

theorem allPlaced_gapsBefore (hrest : rest.head?.any Text.isBlank = false) (hne : rest ≠ [])
    (hparts : surfaceOf parts = rest)
    (h : AllPlaced classes t (before ++ gapsBefore t before) parts) :
    AllPlaced classes t before (gapsBefore t before ++ parts) := by
  rw [gapsBefore] at h ⊢
  split_ifs at h ⊢ with hgap
  · rw [← hparts] at hrest hne
    exact ⟨⟨iff_of_true rfl rfl, ⟨hrest, hne⟩, fun _ => hgap.2.2, nofun⟩, h⟩
  · rwa [List.append_nil] at h

/-- Any other token has blanks allowed before it where they are due. -/
theorem solid {part : Part} {c : Char} {u : Text} (hc : isBlank c = false)
    (hread : IsReadTo classes t before (c :: u)) (hleads : Leads classes c u part rest)
    (h : Continues classes t (before ++ gapsBefore t before ++ [part]) parts rest) :
    Continues classes t before (gapsBefore t before ++ part :: parts) (c :: u) := by
  have hpart : IsPlaced classes t (before ++ gapsBefore t before) part parts := by
    refine ⟨iff_of_false hleads.pattern_ne (by simp [hleads.isBlank_eq]), ?_, ?_, fun _ => ?_⟩
    · rw [h.covers]
      exact hleads.fits
    · rw [hleads.isBlank_eq]
      rintro ⟨⟩
    · rw [surfaceOf_append_gapsBefore]
      exact endsBlank_append_gapsBefore hread
  have hcovers : surfaceOf (part :: parts) = c :: u := by
    rw [hleads.split, ← h.covers]
    rfl
  refine ⟨?_, ?_, ?_⟩
  · rw [surfaceOf_append, surfaceOf_gapsBefore]
    exact hcovers
  · exact allPlaced_gapsBefore (by simp [hc]) (List.cons_ne_nil c u) hcovers ⟨hpart, h.placed⟩
  · obtain ⟨rounds, hrounds, hloop⟩ := h.loop
    refine ⟨rounds + 1, Nat.succ_le_of_lt (hrounds.trans_lt hleads.length_rest_lt), .token hc ?_⟩
    rw [surfaceOf_append, surfaceOf_append_gapsBefore, surfaceOf_singleton, List.length_append,
      doneOf_concat, doneOf_append_gapsBefore hread, List.append_assoc, List.append_assoc,
      List.singleton_append] at hloop
    rwa [hleads.leading, hleads.split, List.drop_left]

end Continues

/-! ## Everything read -/

/-- A text that begins with a blank begins with a gap that ends where its blanks end. -/
theorem exists_gap {c : Char} (hc : isBlank c = true) (t : Text) :
    ∃ run rest, c :: t = run ++ rest ∧ IsGap run ∧ rest.head?.any Text.isBlank = false := by
  refine ⟨(c :: t).takeWhile isBlank, (c :: t).dropWhile isBlank,
    List.takeWhile_append_dropWhile.symm, ⟨by simp [hc], fun _ => List.mem_takeWhile_imp⟩, ?_⟩
  have hstop := List.head?_dropWhile_not isBlank (c :: t)
  cases hhead : ((c :: t).dropWhile isBlank).head? with
  | none => rfl
  | some d => rwa [hhead] at hstop

/-- The loop reads to the end. -/
theorem IsReadTo.exists_continues (hclasses : IsTable classes) {before : List Part}
    (hread : IsReadTo classes t before rest) : ∃ parts, Continues classes t before parts rest := by
  induction hn : rest.length using Nat.strong_induction_on generalizing before rest with
  | _ n ih =>
    subst hn
    rcases rest with _ | ⟨c, u⟩
    · exact ⟨[], .nil classes t before⟩
    cases hc : isBlank c with
    | true =>
      obtain ⟨run, rest, hsplit, hrun, hrest⟩ := exists_gap hc u
      rw [hsplit] at hread ih ⊢
      have hpositive := List.length_pos_of_ne_nil hrun.1
      have hshorter : rest.length < (run ++ rest).length := by
        rw [List.length_append]
        omega
      obtain ⟨parts, hparts⟩ := ih _ hshorter (hread.run hrun hrest) rfl
      exact ⟨_, .run hread hrun hrest hparts⟩
    | false =>
      obtain ⟨part, rest, hleads⟩ := exists_leads hclasses hc u
      have hgaps : ∀ p ∈ Continues.gapsBefore t before, p = .gap :=
        fun _ => Continues.eq_gap_of_mem_gapsBefore
      have hnext := (hleads.split ▸ hread).solid hgaps hleads.isBlank_eq hleads.pattern_ne
        ⟨c, hleads.head, hc⟩
      obtain ⟨parts, hparts⟩ := ih _ hleads.length_rest_lt hnext rfl
      exact ⟨_, .solid hc hread hleads hparts⟩

/-- The parts are the text, read from left to right, and the tokens are theirs. -/
structure IsTokenisation (classes : VowelClasses) (t : Text) (parts : List Part) : Prop where
  tokens : tokens classes blanks t = parts.map (Part.pattern classes)
  covers : surfaceOf parts = t
  placed : ∀ before part after, parts = before ++ part :: after →
    IsPlaced classes t before part after

theorem Continues.isTokenisation (h : Continues classes t [] parts t) :
    IsTokenisation classes t parts where
  tokens := by
    obtain ⟨rounds, hrounds, hloop⟩ := h.loop
    exact hloop.tokensFrom_eq hrounds
  covers := h.covers
  placed := h.placed.isPlaced

theorem isTable_ofEntries {name : Text} {entries : Entries Text}
    (hnonempty : [] ∉ (ofEntries name entries).classes.keys)
    (hsolid : ∀ p ∈ (ofEntries name entries).classes, p.2 ≠ blanks ∧ upper p.2 ≠ blanks) :
    IsTable (ofEntries name entries) where
  lowered key hkey := by
    obtain ⟨k, -, rfl⟩ := Entries.mem_keys_mapKeys.1 hkey
    exact lower_lower k
  nonempty := hnonempty
  solid := hsolid

/-- The loop of substitution ends after as many rounds as the text has characters, or earlier, and
takes the text apart. -/
theorem exists_tokenisation {name : Text} {entries : Entries Text}
    (hnonempty : [] ∉ (ofEntries name entries).classes.keys)
    (hsolid : ∀ p ∈ (ofEntries name entries).classes, p.2 ≠ blanks ∧ upper p.2 ≠ blanks)
    (t : Text) :
    let classes := ofEntries name entries
    (∃ rounds ≤ t.length,
        Loop classes (1 < t.length) rounds 0 [] t (tokens classes blanks t)) ∧
      ∃ parts, IsTokenisation classes t parts ∧
        substitute classes blanks t = parts.flatMap (Part.pattern classes) := by
  intro classes
  have hclasses : IsTable classes := isTable_ofEntries hnonempty hsolid
  obtain ⟨parts, hparts⟩ := (IsReadTo.start classes t).exists_continues hclasses
  have htokens := hparts.isTokenisation
  refine ⟨?_, parts, htokens, ?_⟩
  · rw [htokens.tokens]
    exact hparts.loop
  · rw [substitute, htokens.tokens]
    exact List.flatMap_def.symm

/-- A vowel may take a blank with it. The blank after it is a run of its own. -/
theorem exists_tokenisation_blank :
    let entries : Entries Text := [(['U', ' '], ['x']), (['u'], ['y'])]
    let classes := ofEntries [] entries
    ([] ∉ classes.classes.keys ∧ ∀ p ∈ classes.classes, p.2 ≠ blanks ∧ upper p.2 ≠ blanks) ∧
      tokens classes blanks ['u', ' ', ' ', 'u', 'n'] = [['x'], blanks, ['y'], blanks, ['n']] ∧
      ∃ parts, IsTokenisation classes ['u', ' ', ' ', 'u', 'n'] parts := by
  intro entries classes
  have hnonempty : [] ∉ classes.classes.keys := by decide
  have hsolid : ∀ p ∈ classes.classes, p.2 ≠ blanks ∧ upper p.2 ≠ blanks := by decide
  obtain ⟨-, parts, hparts, -⟩ := exists_tokenisation hnonempty hsolid ['u', ' ', ' ', 'u', 'n']
  exact ⟨⟨hnonempty, hsolid⟩, by decide, parts, hparts⟩

end Query

end TonelessPinyin

import TonelessPinyin.Proofs.Query.Soundness

/-!
Plain queries: the plain letters of a toned text. Such a query finds the text only as a whole, and
which letters of the text fit it is read off the text.
-/
namespace TonelessPinyin.Query

open Text Pattern Syllable

/-! ## Plain letters as queries -/

/-- The query that a toned text is looked for with. -/
def plainQuery (t : Text) : Text := t.map plainLetter

theorem plainLetter_mem_letters : ∀ c ∈ Marking.standard.letters,
    plainLetter c ∈ Marking.standard.letters := by
  decide

theorem isSpelled_plainQuery {t : Text} (h : IsSpelled t) : IsSpelled (plainQuery t) := by
  intro c hc
  obtain ⟨d, hd, rfl⟩ := List.mem_map.1 hc
  exact plainLetter_mem_letters d (h d hd)

theorem escape_eq_of_isSpelled {t : Text} (h : IsSpelled t) : escape t = t :=
  escape_eq_self fun c hc => not_special_of_mem_letters c (h c hc)

theorem filter_not_isBlank_eq {t : Text} (h : IsSpelled t) : t.filter (!isBlank ·) = t := by
  apply List.filter_eq_self.2
  intro c hc
  simp [not_isBlank_of_mem_letters c (h c hc)]

theorem isUpper_of_isSpelled {t : Text} (h : IsSpelled t) : isUpper t = false := by
  have hnone : t.any isCapital = false := by
    rw [List.any_eq_false]
    intro c hc
    simp [not_isCapital_of_mem_letters c (h c hc)]
  rw [isUpper, hnone, Bool.and_false]

theorem lower_letter {c : Char} (h : c ∈ Marking.standard.letters) : lower [c] = [c] :=
  IsSpelled.lower_eq (List.forall_mem_singleton.2 h)

/-! ## Whole texts -/

variable {table : SyllableTable} {syllables : List Text} {casing : Casing}

theorem length_solid (h : table.IsBuiltFrom syllables) {t : Text} (ht : IsSpelled t) :
    ((queryPieces table (plainQuery t)).filter Piece.isSolid).length = t.length := by
  have hlength := (standsFor_queryPieces h (plainQuery t)).length_eq
  rwa [filter_not_isBlank_eq (isSpelled_plainQuery ht), plainQuery, List.length_map] at hlength

theorem start_casing_ne_ascii (caseless : Bool) : (Modes.start caseless).casing ≠ .ascii := by
  cases caseless <;> decide

/-- A text has as many letters as its plain query has pieces, so nothing less than it is found. -/
theorem finds_plainQuery_iff (h : table.IsBuiltFrom syllables) {t : Text} (ht : IsSpelled t)
    (caseless : Bool) :
    ∃ found, (Compiler.ofTable table).finds caseless (plainQuery t) t = .ok found ∧
      (found = true ↔ List.Forall₂ (Piece.Accepts (Modes.start caseless).casing)
        ((queryPieces table (plainQuery t)).filter Piece.isSolid) t) := by
  obtain ⟨found, hfinds, hiff⟩ := Compiler.finds_iff h caseless (plainQuery t) t
  refine ⟨found, hfinds, hiff.trans ?_⟩
  have hclean := fun p hp => (isClean_of_mem_queryPieces h (plainQuery t) p hp).2
  have hblank : ∀ c ∈ t, isBlank c = false := fun c hc => not_isBlank_of_mem_letters c (ht c hc)
  constructor
  · rintro ⟨w, hw, hwt⟩
    have hwblank : ∀ c ∈ w, isBlank c = false := fun c hc => hblank c (hwt.subset hc)
    have hfound := (mem_languageOf_iff_forall₂ hclean hwblank).1 hw
    have hlength : w.length = t.length := by rw [← hfound.length_eq, length_solid h ht]
    rwa [hwt.eq_of_length hlength] at hfound
  · intro hfound
    exact ⟨t, (mem_languageOf_iff_forall₂ hclean hblank).2 hfound, List.infix_rfl⟩

/-! ## Letters that fit -/

/-- A letter by itself fits its plain letter. -/
def FitsAlone (tones : Tones) (c : Char) : Prop :=
  [plainLetter c] ∈ vowelKeys → c ∈ tones.forms (plainLetter c)

/-- The letters fit their plain letters, where u and e together are one vowel. -/
def Fits (tones : Tones) : Text → Prop
  | [] => True
  | [c] => FitsAlone tones c
  | c :: d :: t =>
    if plainLetter c = 'u' ∧ plainLetter d = 'e' then
      (c ∈ untonedForms 'u' ∧ d ∈ tones.forms 'e') ∧ Fits tones t
    else FitsAlone tones c ∧ Fits tones (d :: t)

theorem isSpelled_lettersOf (tones : Tones) :
    ∀ key ∈ vowelKeys, ∀ letters ∈ tones.lettersOf key, IsSpelled letters := by
  cases tones <;> decide

theorem accepts_set_iff (hcasing : casing ≠ .ascii) {letters : Text} (hletters : IsSpelled letters)
    {c : Char} (hc : c ∈ Marking.standard.letters) :
    (Piece.set letters).Accepts casing c ↔ c ∈ letters := by
  constructor
  · rintro ⟨d, hd, hdc⟩
    rwa [← (agrees_iff_eq hcasing (hletters d hd) hc).1 hdc]
  · intro hmem
    exact ⟨c, hmem, (agrees_iff_eq hcasing hc hc).2 rfl⟩

/-- The pieces of a vowel that is written small accept the letters of its sets. -/
theorem forall₂_accepts_vowelPieces_iff (hcasing : casing ≠ .ascii) (tones : Tones)
    {key surface : Text} (hkey : key ∈ vowelKeys) (hsurface : IsSpelled surface) {w : Text}
    (hw : IsSpelled w) :
    List.Forall₂ (Piece.Accepts casing) (vowelPieces tones key surface) w ↔
      w ∈ oneOfEach (tones.lettersOf key) := by
  have hsets := isSpelled_lettersOf tones key hkey
  rw [vowelPieces, List.forall₂_map_left_iff, mem_oneOfEach]
  generalize tones.lettersOf key = sets at hsets
  induction sets generalizing w with
  | nil => simp
  | cons letters sets ih =>
    cases w with
    | nil => simp
    | cons c w =>
      obtain ⟨hc, hw⟩ := List.forall_mem_cons.1 hw
      obtain ⟨hletters, hsets⟩ := List.forall_mem_cons.1 hsets
      have hhere : (Piece.set (inCaseOf surface letters)).Accepts casing c ↔ c ∈ letters := by
        rw [inCaseOf, isUpper_of_isSpelled hsurface, if_neg Bool.false_ne_true,
          accepts_set_iff hcasing hletters hc]
      rw [List.forall₂_cons, List.forall₂_cons]
      exact and_congr hhere (ih hw hsets)

theorem plainLetter_eq_self : ∀ c ∈ Marking.standard.letters,
    [plainLetter c] ∉ vowelKeys → plainLetter c = c := by
  decide

theorem forall₂_accepts_letter_iff (hcasing : casing ≠ .ascii) (tones : Tones) {c : Char}
    (hc : c ∈ Marking.standard.letters) :
    List.Forall₂ (Piece.Accepts casing) ((Grapheme.letter (plainLetter c)).pieces tones) [c] ↔
      FitsAlone tones c := by
  have hplain := plainLetter_mem_letters c hc
  have hone : IsSpelled [c] := List.forall_mem_singleton.2 hc
  rw [Grapheme.pieces, lower_letter hplain, FitsAlone]
  split_ifs with hkey
  · rw [forall₂_accepts_vowelPieces_iff hcasing tones hkey (List.forall_mem_singleton.2 hplain) hone]
    simp [mem_oneOfEach, Tones.lettersOf, hkey]
  · have hsame : plainLetter c = c := plainLetter_eq_self c hc hkey
    have haccepts : (Piece.letter c).Accepts casing c := ⟨c, by simp [Piece.letters],
      (agrees_iff_eq hcasing hc hc).2 rfl⟩
    rw [hsame] at hkey ⊢
    simp [hkey, haccepts]

theorem isCompound_plainLetter_iff {c d : Char} (hc : c ∈ Marking.standard.letters)
    (hd : d ∈ Marking.standard.letters) :
    isCompound (plainLetter c) (plainLetter d) = true ↔
      plainLetter c = 'u' ∧ plainLetter d = 'e' := by
  have hspelled : IsSpelled [plainLetter c, plainLetter d] := by
    simp [IsSpelled, plainLetter_mem_letters c hc, plainLetter_mem_letters d hd]
  have hv : ∀ c ∈ Marking.standard.letters, plainLetter c ≠ 'v' := by decide
  rw [isCompound_iff, hspelled.lower_eq]
  simp [hv c hc]

theorem not_isBlank_plainLetter {c : Char} (hc : c ∈ Marking.standard.letters) :
    isBlank (plainLetter c) = false :=
  not_isBlank_of_mem_letters _ (plainLetter_mem_letters c hc)

theorem forall₂_accepts_letter_cons_iff (hcasing : casing ≠ .ascii) (tones : Tones) {c : Char}
    {t : Text} (hc : c ∈ Marking.standard.letters)
    (hbegins : BeginsSingly (plainLetter c) (plainQuery t)) :
    List.Forall₂ (Piece.Accepts casing) (solidPieces tones (plainQuery (c :: t))) (c :: t) ↔
      FitsAlone tones c ∧
        List.Forall₂ (Piece.Accepts casing) (solidPieces tones (plainQuery t)) t := by
  have hpieces : solidPieces tones (plainQuery (c :: t)) =
      (Grapheme.letter (plainLetter c)).pieces tones ++ solidPieces tones (plainQuery t) :=
    solidPieces_letter (not_isBlank_plainLetter hc) hbegins
  -- one piece for one letter, so it has the first character of the text to itself
  obtain ⟨p, hp⟩ : ∃ p, (Grapheme.letter (plainLetter c)).pieces tones = [p] :=
    List.length_eq_one_iff.1 (standsFor_letter tones (plainLetter c)).length_eq
  have hletter := forall₂_accepts_letter_iff hcasing tones hc
  rw [hp] at hpieces hletter
  rw [hpieces, List.singleton_append, List.forall₂_cons, ← hletter]
  simp

theorem forall₂_accepts_compound_cons_iff (hcasing : casing ≠ .ascii) (tones : Tones) {c d : Char}
    (t : Text) (hc : c ∈ Marking.standard.letters) (hd : d ∈ Marking.standard.letters)
    (hue : plainLetter c = 'u' ∧ plainLetter d = 'e') :
    List.Forall₂ (Piece.Accepts casing) (solidPieces tones (plainQuery (c :: d :: t)))
        (c :: d :: t) ↔
      (c ∈ untonedForms 'u' ∧ d ∈ tones.forms 'e') ∧
        List.Forall₂ (Piece.Accepts casing) (solidPieces tones (plainQuery t)) t := by
  have hcd : IsSpelled [c, d] := by
    simp [IsSpelled, hc, hd]
  have hwritten : IsSpelled [plainLetter c, plainLetter d] := isSpelled_plainQuery hcd
  have hcompound := (isCompound_plainLetter_iff hc hd).2 hue
  have hpieces : solidPieces tones (plainQuery (c :: d :: t)) =
      (Grapheme.compound (plainLetter c) (plainLetter d)).pieces tones ++
        solidPieces tones (plainQuery t) :=
    solidPieces_compound hcompound _
  have hvowel := forall₂_accepts_vowelPieces_iff hcasing tones
    (mem_vowelKeys_of_isCompound hcompound) hwritten hcd
  -- two pieces for two letters, which are the sets of u and of e
  obtain ⟨p, q, hp⟩ : ∃ p q,
      (Grapheme.compound (plainLetter c) (plainLetter d)).pieces tones = [p, q] :=
    List.length_eq_two.1 (standsFor_compound hcompound).length_eq
  rw [Grapheme.pieces] at hp hpieces
  rw [hp] at hpieces hvowel
  rw [hwritten.lower_eq, hue.1, hue.2] at hvowel
  simp only [mem_oneOfEach, List.forall₂_cons, List.forall₂_nil_right_iff, and_true,
    Tones.lettersOf] at hvowel
  rw [hpieces, ← hvowel, and_assoc]
  simp only [List.cons_append, List.nil_append, List.forall₂_cons]

/-- The solid pieces of a plain query accept the letters that fit. -/
theorem forall₂_accepts_iff_fits (hcasing : casing ≠ .ascii) (tones : Tones) {t : Text}
    (ht : IsSpelled t) :
    List.Forall₂ (Piece.Accepts casing) (solidPieces tones (plainQuery t)) t ↔ Fits tones t := by
  induction t using Fits.induct with
  | case1 => simp [plainQuery, solidPieces_nil, Fits]
  | case2 c =>
    rw [forall₂_accepts_letter_cons_iff hcasing tones (ht c (by simp))
      (by simp [BeginsSingly, plainQuery])]
    simp [plainQuery, solidPieces_nil, Fits]
  | case3 c d t hue ih =>
    obtain ⟨hc, ht⟩ := List.forall_mem_cons.1 ht
    obtain ⟨hd, ht⟩ := List.forall_mem_cons.1 ht
    rw [forall₂_accepts_compound_cons_iff hcasing tones t hc hd hue, ih ht, Fits, if_pos hue]
  | case4 c d t hue ih =>
    obtain ⟨hc, ht⟩ := List.forall_mem_cons.1 ht
    obtain ⟨hd, -⟩ := List.forall_mem_cons.1 ht
    have hbegins : BeginsSingly (plainLetter c) (plainQuery (d :: t)) := by
      intro e he
      obtain rfl : plainLetter d = e := by simpa [plainQuery] using he
      simpa using mt (isCompound_plainLetter_iff hc hd).1 hue
    rw [forall₂_accepts_letter_cons_iff hcasing tones hc hbegins, ih ht, Fits, if_neg hue]

/-! ## Heads -/

theorem forall₂_append_iff {α β : Type} {R : α → β → Prop} {as as' : List α} {bs : List β} :
    List.Forall₂ R (as ++ as') bs ↔
      ∃ b b', List.Forall₂ R as b ∧ List.Forall₂ R as' b' ∧ bs = b ++ b' := by
  constructor
  · intro h
    induction as generalizing bs with
    | nil => exact ⟨[], bs, .nil, h, rfl⟩
    | cons a as ih =>
      cases h with
      | cons hab h =>
        obtain ⟨b, b', hb, hb', rfl⟩ := ih h
        exact ⟨_ :: b, b', .cons hab hb, hb', rfl⟩
  · rintro ⟨b, b', hb, hb', rfl⟩
    exact List.rel_append hb hb'

/-- A head that is written small has the letters of the syllable. -/
theorem zipWith_inCaseOfLetter_eq {surface toned : Text} (hsurface : IsSpelled surface)
    (hlength : surface.length = toned.length) :
    List.zipWith inCaseOfLetter surface toned = toned := by
  induction surface generalizing toned with
  | nil => rw [List.zipWith_nil_left, List.length_eq_zero_iff.1 hlength.symm]
  | cons c surface ih =>
    obtain ⟨d, toned, rfl⟩ := List.exists_cons_of_length_eq_add_one hlength.symm
    obtain ⟨hc, hsurface⟩ := List.forall_mem_cons.1 hsurface
    have hletter : inCaseOfLetter c d = d := by
      rw [inCaseOfLetter, lower_letter hc]
      split_ifs with hcd
      · exact List.singleton_inj.1 hcd
      · rfl
    rw [List.zipWith_cons_cons, hletter, ih hsurface (Nat.succ_injective hlength)]

variable {t before cluster after base first written last : Text} {n : Nat}

theorem forall₂_accepts_headPieces_iff (hcasing : casing ≠ .ascii)
    (h : IsWrittenHead table (plainQuery t) n before cluster after base first written last)
    (ht : IsSpelled t) {u : Text} (hu : IsSpelled u) :
    List.Forall₂ (Piece.Accepts casing)
        (headPieces (before ++ cluster ++ after) ((plainQuery t).take n)) u ↔
      ∃ w ∈ oneOfEach (Tones.required.lettersOf (vowelOf cluster)), u = before ++ w ++ after := by
  have hsurface := (isSpelled_plainQuery ht).take n
  rw [h.surface.split] at hsurface
  obtain ⟨hfirst, hwritten, hlast⟩ := IsSpelled.append_append_iff.1 hsurface
  obtain ⟨hbefore, -, hafter⟩ := IsSpelled.append_append_iff.1 h.spelled
  have hkey := h.carriesTone.spells.vowelOf_mem_keys
  rw [headPieces_eq h.carriesTone h.surface,
    zipWith_inCaseOfLetter_eq hfirst h.surface.first.length_eq,
    zipWith_inCaseOfLetter_eq hlast h.surface.last.length_eq, forall₂_append_iff]
  simp only [forall₂_append_iff]
  constructor
  · rintro ⟨_, a, ⟨b, w, hb, hw, rfl⟩, ha, rfl⟩
    obtain ⟨hub, huw, hua⟩ := IsSpelled.append_append_iff.1 hu
    obtain rfl := (forall₂_accepts_letters_iff hcasing hbefore hub).1 hb
    obtain rfl := (forall₂_accepts_letters_iff hcasing hafter hua).1 ha
    exact ⟨w, (forall₂_accepts_vowelPieces_iff hcasing .required hkey hwritten huw).1 hw, rfl⟩
  · rintro ⟨w, hw, rfl⟩
    have huw := (IsSpelled.append_append_iff.1 hu).2.1
    exact ⟨_, after, ⟨before, w, (forall₂_accepts_letters_iff hcasing hbefore hbefore).2 rfl,
      (forall₂_accepts_vowelPieces_iff hcasing .required hkey hwritten huw).2 hw, rfl⟩,
      (forall₂_accepts_letters_iff hcasing hafter hafter).2 rfl, rfl⟩

/-! ## Whole plain queries -/

theorem accepts_iff_of_none (hcasing : casing ≠ .ascii) (ht : IsSpelled t)
    (hn : headLength table (plainQuery t) = none) :
    List.Forall₂ (Piece.Accepts casing)
        ((queryPieces table (plainQuery t)).filter Piece.isSolid) t ↔ Fits .required t := by
  have hescape := escape_eq_of_isSpelled (isSpelled_plainQuery ht)
  rw [queryPieces_of_none (hescape.symm ▸ hn), piecesOf, filter_isSolid_piecesFrom,
    forall₂_accepts_iff_fits hcasing .required ht]

theorem accepts_iff_of_some (hcasing : casing ≠ .ascii) (ht : IsSpelled t)
    (hn : headLength table (plainQuery t) = some n)
    (h : IsWrittenHead table (plainQuery t) n before cluster after base first written last) :
    List.Forall₂ (Piece.Accepts casing)
        ((queryPieces table (plainQuery t)).filter Piece.isSolid) t ↔
      ∃ w ∈ oneOfEach (Tones.required.lettersOf (vowelOf cluster)), ∃ rest,
        t = before ++ w ++ after ++ rest ∧ Fits .optional rest := by
  have hescape := escape_eq_of_isSpelled (isSpelled_plainQuery ht)
  have hdrop : (plainQuery t).drop n = plainQuery (t.drop n) := (List.map_drop ..).symm
  have hrest : IsSpelled (t.drop n) := fun c hc => ht c (List.mem_of_mem_drop hc)
  have hfits := forall₂_accepts_iff_fits hcasing .optional hrest
  -- the head has as many pieces as letters, so it ends where the query's head does
  have hend {u v : Text} (heq : t = u ++ v)
      (hu : List.Forall₂ (Piece.Accepts casing)
        (headPieces (before ++ cluster ++ after) ((plainQuery t).take n)) u) :
      v = t.drop n := by
    have hlt := h.isHead.lt
    have hlength := hu.length_eq
    rw [(standsFor_headPieces h).length_eq, List.length_take, Nat.min_eq_left hlt.le] at hlength
    rw [heq, hlength, List.drop_left]
  rw [queryPieces_of_some (hescape.symm ▸ hn) h.isHead, List.filter_append,
    filter_isSolid_headPieces h.carriesTone h.surface, filter_isSolid_afterGap, piecesOf,
    filter_isSolid_piecesFrom, hdrop, forall₂_append_iff]
  constructor
  · rintro ⟨u, v, hu, hv, heq⟩
    obtain rfl := hend heq hu
    have hspelled : IsSpelled u := fun c hc => ht c (heq ▸ List.mem_append_left _ hc)
    obtain ⟨w, hw, rfl⟩ := (forall₂_accepts_headPieces_iff hcasing h ht hspelled).1 hu
    exact ⟨w, hw, _, heq, hfits.1 hv⟩
  · rintro ⟨w, hw, rest, heq, hrest⟩
    have hspelled : IsSpelled (before ++ w ++ after) := fun c hc =>
      ht c (heq ▸ List.mem_append_left _ hc)
    have hhead := (forall₂_accepts_headPieces_iff hcasing h ht hspelled).2 ⟨w, hw, rfl⟩
    obtain rfl := hend heq hhead
    exact ⟨_, _, hhead, hfits.2 hrest, heq⟩

end TonelessPinyin.Query

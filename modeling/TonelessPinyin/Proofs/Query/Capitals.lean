import TonelessPinyin.Proofs.Query.Caseless

/-!
Queries in capitals, where case counts. What a small query finds is found in capitals by the query
in capitals, unless the query spells its head other than the table does: u, v and ü are the same in
a key, and where the query has another of them the pattern has the small letter of the table.
-/
namespace TonelessPinyin

open Text Pattern Syllable

namespace Query

/-! ## Letters -/

/-- The capital of a letter that has one of one character. -/
def capital (c : Char) : Char := (upperLetter c).headD c

theorem upperLetter_of_mem_alphabet :
    ∀ c ∈ Marking.standard.alphabet, upperLetter c = [capital c] := by
  decide

theorem lower_capital : ∀ c ∈ Marking.standard.alphabet, lower [capital c] = [c] := by
  decide

theorem isCapital_capital : ∀ c ∈ Marking.standard.alphabet,
    isCapital (capital c) = true ∧ isSmall (capital c) = false ∧ isTitle (capital c) = false := by
  decide

theorem mem_letters_of_mem_alphabet {c : Char} (h : c ∈ Marking.standard.alphabet) :
    c ∈ Marking.standard.letters :=
  List.mem_append_left _ h

theorem isUpper_map_capital {t : Text} (hne : t ≠ []) (h : ∀ c ∈ t, c ∈ Marking.standard.alphabet) :
    isUpper (t.map capital) = true := by
  obtain ⟨c, t, rfl⟩ := List.exists_cons_of_ne_nil hne
  have hcapitals : ∀ d ∈ (c :: t).map capital,
      isCapital d = true ∧ isSmall d = false ∧ isTitle d = false := by
    intro d hd
    obtain ⟨b, hb, rfl⟩ := List.mem_map.1 hd
    exact isCapital_capital b (h b hb)
  rw [isUpper, Bool.and_eq_true, List.all_eq_true, List.any_eq_true]
  constructor
  · intro d hd
    simp [(hcapitals d hd).2]
  · exact ⟨capital c, List.mem_cons_self, (hcapitals _ List.mem_cons_self).1⟩

/-- A letter and its capital, or a blank and itself. -/
inductive Raised : Char → Char → Prop
  | letter {c : Char} (h : c ∈ Marking.standard.alphabet) : Raised c (capital c)
  | blank {c : Char} (h : isBlank c = true) : Raised c c

theorem Raised.upperLetter_eq {c d : Char} (h : Raised c d) : upperLetter c = [d] := by
  cases h with
  | letter h => exact upperLetter_of_mem_alphabet c h
  | blank h => exact upperLetter_of_isBlank h

theorem Raised.sameVowel {c d : Char} (h : Raised c d) : SameVowel c d := by
  cases h with
  | letter h => exact .inl ((lower_letter (mem_letters_of_mem_alphabet h)).trans (lower_capital c h).symm)
  | blank h => exact .inl rfl

theorem forall₂_raised_upper {t : Text}
    (h : ∀ c ∈ t, c ∈ Marking.standard.alphabet ∨ isBlank c = true) :
    List.Forall₂ Raised t (upper t) := by
  induction t with
  | nil => exact .nil
  | cons c t ih =>
    obtain ⟨hc, ht⟩ := List.forall_mem_cons.1 h
    obtain ⟨d, hd⟩ : ∃ d, Raised c d := by
      rcases hc with hc | hc
      · exact ⟨_, .letter hc⟩
      · exact ⟨_, .blank hc⟩
    have hupper : upper (c :: t) = d :: upper t := by
      rw [upper, List.flatMap_cons, hd.upperLetter_eq]
      rfl
    rw [hupper]
    exact .cons hd (ih ht)

/-! ## Pieces in capitals -/

/-- The second piece takes the capitals of what the first one takes. -/
structure Raises (p p' : Piece) : Prop where
  isSolid : p.isSolid = p'.isSolid
  letters : ∀ c ∈ p.letters, ∃ d ∈ p'.letters, upperLetter c = [d]

theorem raises_blanks : Raises .blanks .blanks := ⟨rfl, by simp [Piece.letters]⟩

theorem raises_letter {c d : Char} (h : upperLetter c = [d]) :
    Raises (.letter c) (.letter d) := by
  refine ⟨rfl, fun e he => ⟨d, List.mem_singleton_self d, ?_⟩⟩
  obtain rfl := List.mem_singleton.1 he
  exact h

theorem upper_eq_of_isBlank {t : Text} (h : ∀ c ∈ t, isBlank c = true) : upper t = t := by
  induction t with
  | nil => rfl
  | cons c t ih =>
    obtain ⟨hc, ht⟩ := List.forall_mem_cons.1 h
    rw [upper, List.flatMap_cons, upperLetter_of_isBlank hc]
    exact congrArg (c :: ·) (ih ht)

/-- Where case counts, a piece that is not blanks takes its own letters. -/
theorem mem_language_exact_iff {p : Piece} (hsolid : p.isSolid = true) {u : Text} :
    u ∈ p.language .exact ↔ ∃ c ∈ p.letters, u = [c] := by
  rw [Piece.language, if_pos hsolid]
  constructor
  · intro hu
    obtain ⟨c, ⟨d, hd, hdc⟩, rfl⟩ := mem_agreeing.1 hu
    obtain rfl : d = c := by simpa [Casing.agrees] using hdc
    exact ⟨d, hd, rfl⟩
  · rintro ⟨c, hc, rfl⟩
    exact ⟨c, ⟨c, hc, Casing.agrees_refl .exact c⟩, rfl⟩

theorem upper_mem_language {p p' : Piece} (h : Raises p p') {u : Text}
    (hu : u ∈ p.language .exact) : upper u ∈ p'.language .exact := by
  by_cases hsolid : p.isSolid = true
  · obtain ⟨c, hc, rfl⟩ := (mem_language_exact_iff hsolid).1 hu
    obtain ⟨d, hd, hupper⟩ := h.letters c hc
    rw [mem_language_exact_iff (h.isSolid ▸ hsolid), upper, List.flatMap_singleton, hupper]
    exact ⟨d, hd, rfl⟩
  · have hsolid' : ¬p'.isSolid = true := h.isSolid ▸ hsolid
    rw [Piece.language, if_neg hsolid] at hu
    rw [Piece.language, if_neg hsolid', upper_eq_of_isBlank hu]
    exact hu

theorem upper_mem_languageOf {ps ps' : List Piece} (h : List.Forall₂ Raises ps ps') {w : Text}
    (hw : w ∈ languageOf .exact ps) : upper w ∈ languageOf .exact ps' := by
  induction h generalizing w with
  | nil =>
    have hnil : w = [] := hw
    rw [hnil]
    exact Language.nil_mem_one
  | cons hp _ ih =>
    rw [languageOf_cons] at hw ⊢
    obtain ⟨u, hu, v, hv, rfl⟩ := Language.mem_mul.1 hw
    rw [upper_append]
    exact Language.append_mem_mul (upper_mem_language hp hu) (ih hv)

theorem upperLetter_lettersOf (tones : Tones) :
    ∀ key ∈ vowelKeys, ∀ letters ∈ tones.lettersOf key, ∀ c ∈ letters,
      upperLetter c = [capital c] := by
  cases tones <;> decide

theorem raises_vowelPieces {tones : Tones} {key key' : Text} (hkey : key ∈ vowelKeys)
    (hsame : tones.lettersOf key = tones.lettersOf key') {surface surface' : Text}
    (hsmall : isUpper surface = false) (hcapital : isUpper surface' = true) :
    List.Forall₂ Raises (vowelPieces tones key surface) (vowelPieces tones key' surface') := by
  rw [vowelPieces, vowelPieces, ← hsame, List.forall₂_map_left_iff, List.forall₂_map_right_iff,
    List.forall₂_same]
  intro letters hletters
  rw [inCaseOf, inCaseOf, hsmall, hcapital]
  refine ⟨rfl, fun c hc => ?_⟩
  have hupper := upperLetter_lettersOf tones key hkey letters hletters c hc
  exact ⟨capital c, List.mem_flatMap.2 ⟨c, hc, by simp [hupper]⟩, hupper⟩

theorem isUpper_of_mem_alphabet {t : Text} (h : ∀ c ∈ t, c ∈ Marking.standard.alphabet) :
    isUpper t = false :=
  isUpper_of_isSpelled fun c hc => mem_letters_of_mem_alphabet (h c hc)

theorem lower_notMem_vowelKeys {c : Char} (h : isBlank c = true) : lower [c] ∉ vowelKeys := by
  have hvowels : ∀ key ∈ vowelKeys, ∀ v ∈ key, isBlank v = false := by decide
  have hI : c ≠ 'İ' := by
    rintro rfl
    exact absurd h (by decide)
  intro hkey
  rw [lower_singleton hI] at hkey
  have hblank := hvowels _ hkey _ (List.mem_singleton_self _)
  rw [isBlank_lowerLetter, h] at hblank
  cases hblank

theorem corresponds_raised (tones : Tones) : Corresponds tones Raised Raises where
  blanks := raises_blanks
  isBlank h := h.sameVowel.isBlank_eq
  isCompound hc hd := hc.sameVowel.isCompound_eq hd.sameVowel
  letter {c d} h := by
    cases h with
    | letter h =>
      have hone : ∀ d ∈ [c], d ∈ Marking.standard.alphabet := List.forall_mem_singleton.2 h
      have hsmall : lower [c] = [c] := lower_letter (mem_letters_of_mem_alphabet h)
      rw [Grapheme.pieces, Grapheme.pieces, lower_capital c h, hsmall]
      split_ifs with hkey
      · exact raises_vowelPieces hkey rfl (isUpper_of_mem_alphabet hone)
          (isUpper_map_capital (by simp) hone)
      · exact .cons (raises_letter (upperLetter_of_mem_alphabet c h)) .nil
    | blank h =>
      rw [Grapheme.pieces, if_neg (lower_notMem_vowelKeys h)]
      exact .cons (raises_letter (upperLetter_of_isBlank h)) .nil
  compound {c d c' d'} hc hd h := by
    have h' := (hc.sameVowel.isCompound_eq hd.sameVowel).symm.trans h
    obtain ⟨hcblank, hdblank⟩ := not_blank_of_isCompound h
    cases hc with
    | blank hb => simp [hcblank] at hb
    | letter hc =>
      cases hd with
      | blank hb => simp [hdblank] at hb
      | letter hd =>
        have hboth : ∀ e ∈ [c, d], e ∈ Marking.standard.alphabet := by simp [hc, hd]
        apply raises_vowelPieces (mem_vowelKeys_of_isCompound h)
        · rw [lettersOf_of_isCompound h, lettersOf_of_isCompound h']
        · exact isUpper_of_mem_alphabet hboth
        · exact isUpper_map_capital (by simp) hboth

/-! ## Heads in capitals -/

/-- The head writes the letters outside of its cluster as the table does. -/
def SpelledAsStored (table : SyllableTable) (query : Text) : Prop :=
  ∀ n toned before cluster after, headLength table (escape query) = some n →
    table.get? (query.take n) = some toned → aroundTone toned = some (before, cluster, after) →
    (query.take n).take before.length = before ∧
      (query.take n).drop (before.length + cluster.length) = after

theorem normalizeKey_capital {c : Char} (h : c ∈ Marking.standard.alphabet) :
    normalizeKey [capital c] = normalizeKey [c] := by
  rw [normalizeKey, normalizeKey, lower_capital c h, lower_letter (mem_letters_of_mem_alphabet h)]

/-- The capitals of a surface are cut where the surface is. -/
theorem IsSurface.map_capital {surface before cluster after first written last : Text}
    (hs : IsSurface surface before cluster after first written last)
    (h : ∀ c ∈ surface, c ∈ Marking.standard.alphabet) :
    IsSurface (surface.map capital) before cluster after (first.map capital) (written.map capital)
      (last.map capital) := by
  have hkeys {a b : Text} {f : Char → Char} (ha : ∀ c ∈ a, c ∈ Marking.standard.alphabet)
      (hab : List.Forall₂ (fun c d => normalizeKey [c] = [f d]) a b) :
      List.Forall₂ (fun c d => normalizeKey [c] = [f d]) (a.map capital) b := by
    rw [List.forall₂_map_left_iff]
    induction hab with
    | nil => exact .nil
    | cons hcd _ ih =>
      obtain ⟨hc, ha⟩ := List.forall_mem_cons.1 ha
      exact .cons ((normalizeKey_capital hc).trans hcd) (ih ha)
  rw [hs.split, List.forall_mem_append, List.forall_mem_append] at h
  refine ⟨?_, hkeys h.1.1 hs.first, hkeys h.1.2 hs.written, hkeys h.2 hs.last⟩
  rw [hs.split, List.map_append, List.map_append]

/-- A letter in capitals stays one just where the table has the same letter. -/
theorem inCaseOfLetter_capital {c : Char} (h : c ∈ Marking.standard.alphabet) (d : Char) :
    inCaseOfLetter (capital c) d = if c = d then capital c else d := by
  rw [inCaseOfLetter, lower_capital c h]
  simp only [List.cons.injEq, and_true]

theorem raises_letters {t : Text} (h : ∀ c ∈ t, c ∈ Marking.standard.alphabet) :
    List.Forall₂ Raises ((List.zipWith inCaseOfLetter t t).map .letter)
      ((List.zipWith inCaseOfLetter (t.map capital) t).map .letter) := by
  induction t with
  | nil => exact .nil
  | cons c t ih =>
    obtain ⟨hc, ht⟩ := List.forall_mem_cons.1 h
    have hsmall : inCaseOfLetter c c = c := by
      rw [inCaseOfLetter]
      split_ifs <;> rfl
    have hcapital : inCaseOfLetter (capital c) c = capital c := by
      rw [inCaseOfLetter_capital hc, if_pos rfl]
    refine .cons ?_ (ih ht)
    rw [hsmall, hcapital]
    exact raises_letter (upperLetter_of_mem_alphabet c hc)

/-- Where query and table differ, the table's letter is one of three, and the pattern has it. -/
theorem exists_small_letter {surface toned : Text}
    (h : ∀ c ∈ surface, c ∈ Marking.standard.alphabet)
    (hkeys : List.Forall₂ (fun c d => normalizeKey [c] = [foldLetter d]) surface toned)
    (hne : surface ≠ toned) :
    ∃ d ∈ ['u', 'v', 'ü'],
      Piece.letter d ∈ (List.zipWith inCaseOfLetter (surface.map capital) toned).map .letter := by
  induction hkeys with
  | nil => exact absurd rfl hne
  | @cons c d surface toned hcd _ ih =>
    obtain ⟨hc, hsurface⟩ := List.forall_mem_cons.1 h
    by_cases hsame : c = d
    · subst hsame
      have hrest : surface ≠ toned := fun heq => hne (congrArg (c :: ·) heq)
      obtain ⟨e, he, hmem⟩ := ih hsurface hrest
      exact ⟨e, he, List.mem_cons_of_mem _ hmem⟩
    · refine ⟨d, ?_, ?_⟩
      · rw [normalizeKey, lower_letter (mem_letters_of_mem_alphabet hc), List.map_singleton,
          List.singleton_inj, foldLetter, foldLetter] at hcd
        split_ifs at hcd with hc' hd' hd'
        · rcases hd' with rfl | rfl <;> decide
        · rw [← hcd]
          decide
        · rcases hd' with rfl | rfl <;> decide
        · exact absurd hcd hsame
      · rw [List.map_cons, List.zipWith_cons_cons, inCaseOfLetter_capital hc, if_neg hsame]
        exact List.mem_cons_self

variable {table : SyllableTable} {syllables : List Text} {query : Text} {n : Nat}
  {before cluster after base first written last : Text}

theorem forall₂_sameKey_upper (hquery : ∀ c ∈ query, c ∈ Marking.standard.alphabet ∨ isBlank c = true) :
    List.Forall₂ SameKey query (upper query) :=
  (forall₂_raised_upper hquery).imp fun _ _ h => h.sameVowel.sameKey

theorem mem_alphabet_of_head (h : table.IsBuiltFrom syllables)
    (hw : IsWrittenHead table query n before cluster after base first written last)
    (hquery : ∀ c ∈ query, c ∈ Marking.standard.alphabet ∨ isBlank c = true) :
    ∀ c ∈ query.take n, c ∈ Marking.standard.alphabet := by
  intro c hc
  have hblank := not_isBlank_of_isSpelled_lower (h.isSpelled_of_get? hw.isHead.get).2 c hc
  rcases hquery c (List.mem_of_mem_take hc) with hletter | hb
  · exact hletter
  · simp [hblank] at hb

/-- The query in capitals has the same head in capitals. -/
theorem IsWrittenHead.raised (h : table.IsBuiltFrom syllables)
    (hw : IsWrittenHead table query n before cluster after base first written last)
    (hquery : ∀ c ∈ query, c ∈ Marking.standard.alphabet ∨ isBlank c = true) :
    IsWrittenHead table (upper query) n before cluster after base (first.map capital)
      (written.map capital) (last.map capital) := by
  have hletters := mem_alphabet_of_head h hw hquery
  have hkeys := forall₂_sameKey_upper hquery
  have htake : (upper query).take n = (query.take n).map capital := by
    have hraised := List.forall₂_take n (forall₂_raised_upper hquery)
    rw [← List.forall₂_eq_eq_eq, List.forall₂_map_right_iff]
    apply List.Forall₂.flip
    rw [List.forall₂_iff_zip] at hraised ⊢
    refine ⟨hraised.1, fun {c d} hmem => ?_⟩
    cases hraised.2 hmem with
    | letter _ => rfl
    | blank hb =>
      have hc := not_isBlank_of_mem_letters c
        (mem_letters_of_mem_alphabet (hletters c (List.of_mem_zip hmem).1))
      simp [hc] at hb
  refine ⟨⟨hw.isHead.two_le, hkeys.length_eq ▸ hw.isHead.lt, ?_⟩, hw.spelled, hw.carriesTone, ?_⟩
  · rw [← get?_congr h (List.forall₂_take n hkeys), hw.isHead.get]
  · rw [htake]
    exact hw.surface.map_capital hletters

/-- Whether the head is spelled as in the table can be seen where it is cut. -/
theorem spelledAsStored_iff (hhead : headLength table (escape query) = some n)
    (hw : IsWrittenHead table query n before cluster after base first written last) :
    SpelledAsStored table query ↔ first = before ∧ last = after := by
  have hbefore : (query.take n).take before.length = first := by
    rw [hw.surface.split, List.append_assoc, ← hw.surface.first.length_eq, List.take_left]
  have hafter : (query.take n).drop (before.length + cluster.length) = last := by
    rw [hw.surface.split, ← hw.surface.first.length_eq, ← hw.surface.written.length_eq,
      ← List.length_append, List.drop_left]
  constructor
  · intro hspelled
    have h := hspelled n _ before cluster after hhead hw.isHead.get hw.carriesTone.aroundTone_eq
    rwa [hbefore, hafter] at h
  · intro h m toned before' cluster' after' hm hget haround
    obtain rfl := Option.some.inj (hhead.symm.trans hm)
    obtain rfl := Option.some.inj (hw.isHead.get.symm.trans hget)
    rw [hw.carriesTone.aroundTone_eq] at haround
    obtain ⟨rfl, rfl, rfl⟩ : before = before' ∧ cluster = cluster' ∧ after = after' := by
      simpa using haround
    rwa [hbefore, hafter]

theorem raises_headPieces (h : table.IsBuiltFrom syllables)
    (hw : IsWrittenHead table query n before cluster after base first written last)
    (hquery : ∀ c ∈ query, c ∈ Marking.standard.alphabet ∨ isBlank c = true)
    (hfirst : first = before) (hlast : last = after) :
    List.Forall₂ Raises (headPieces (before ++ cluster ++ after) (query.take n))
      (headPieces (before ++ cluster ++ after) ((upper query).take n)) := by
  have hletters := mem_alphabet_of_head h hw hquery
  have hw' := hw.raised h hquery
  rw [headPieces_eq hw.carriesTone hw.surface, headPieces_eq hw'.carriesTone hw'.surface]
  rw [hw.surface.split, List.forall_mem_append, List.forall_mem_append] at hletters
  obtain ⟨⟨hfirsts, hwritten⟩, hlasts⟩ := hletters
  have hne : written ≠ [] := by
    rw [← List.length_pos_iff, hw.surface.written.length_eq]
    rcases hw.carriesTone.spells with ⟨c, -, rfl, -⟩ | ⟨c, -, rfl, -⟩ <;> simp
  have hvowel : List.Forall₂ Raises (vowelPieces .required (vowelOf cluster) written)
      (vowelPieces .required (vowelOf cluster) (written.map capital)) :=
    raises_vowelPieces hw.carriesTone.spells.vowelOf_mem_keys rfl
      (isUpper_of_mem_alphabet hwritten) (isUpper_map_capital hne hwritten)
  subst hfirst hlast
  exact List.rel_append (List.rel_append (raises_letters hfirsts) hvowel) (raises_letters hlasts)

theorem raises_queryPieces (h : table.IsBuiltFrom syllables)
    (hquery : ∀ c ∈ query, c ∈ Marking.standard.alphabet ∨ isBlank c = true)
    (hspelled : SpelledAsStored table query) :
    List.Forall₂ Raises (queryPieces table query) (queryPieces table (upper query)) := by
  have hraised := forall₂_raised_upper hquery
  apply forall₂_queryPieces h raises_blanks (fun h => h.isSolid) (forall₂_sameKey_upper hquery)
  · intro _
    exact (corresponds_raised .required).piecesOf hraised
  · intro n toned hhead hn hn'
    obtain ⟨before, cluster, after, base, first, written, last, hw⟩ := exists_isWrittenHead h hhead
    obtain ⟨hfirst, hlast⟩ := (spelledAsStored_iff hhead hw).1 hspelled
    obtain rfl := Option.some.inj (hw.isHead.get.symm.trans hn.get)
    exact ⟨raises_headPieces h hw hquery hfirst hlast,
      (corresponds_raised .optional).piecesOf (List.forall₂_drop n hraised)⟩

/-- A head that is spelled otherwise leaves a small letter in the pattern. -/
theorem exists_small_piece (h : table.IsBuiltFrom syllables)
    (hquery : ∀ c ∈ query, c ∈ Marking.standard.alphabet ∨ isBlank c = true)
    (hspelled : ¬SpelledAsStored table query) :
    ∃ d ∈ ['u', 'v', 'ü'], Piece.letter d ∈ queryPieces table (upper query) := by
  have hlength := headLength_congr h (forall₂_escape (forall₂_sameKey_upper hquery))
  cases hhead : headLength table (escape query) with
  | none =>
    refine absurd (fun n toned before cluster after hn => ?_) hspelled
    cases hhead.symm.trans hn
  | some n =>
    obtain ⟨before, cluster, after, base, first, written, last, hw⟩ := exists_isWrittenHead h hhead
    have hw' := hw.raised h hquery
    have hletters := mem_alphabet_of_head h hw hquery
    rw [hw.surface.split, List.forall_mem_append, List.forall_mem_append] at hletters
    rw [spelledAsStored_iff hhead hw, not_and_or] at hspelled
    rw [queryPieces_of_some (hlength ▸ hhead) hw'.isHead,
      headPieces_eq hw'.carriesTone hw'.surface]
    rcases hspelled with hfirst | hlast
    · obtain ⟨d, hd, hmem⟩ := exists_small_letter hletters.1.1 hw.surface.first hfirst
      exact ⟨d, hd, List.mem_append_left _ (List.mem_append_left _ (List.mem_append_left _ hmem))⟩
    · obtain ⟨d, hd, hmem⟩ := exists_small_letter hletters.2 hw.surface.last hlast
      exact ⟨d, hd, List.mem_append_left _ (List.mem_append_right _ hmem)⟩

theorem mem_of_letter_mem {d : Char} {ps : List Piece} (hd : Piece.letter d ∈ ps) {w : Text}
    (hw : w ∈ languageOf .exact ps) : d ∈ w := by
  induction ps generalizing w with
  | nil => cases hd
  | cons p ps ih =>
    rw [languageOf_cons] at hw
    obtain ⟨u, hu, v, hv, rfl⟩ := Language.mem_mul.1 hw
    rcases List.mem_cons.1 hd with rfl | hd
    · obtain ⟨c, hc, rfl⟩ := (mem_language_exact_iff rfl).1 hu
      obtain rfl := List.mem_singleton.1 hc
      exact List.mem_append_left v (List.mem_singleton_self c)
    · exact List.mem_append_right u (ih hd hv)

/-- What a small query finds is found in capitals by the query in capitals, just if the query spells
its head as the table does. -/
theorem finds_upper_iff (h : table.IsBuiltFrom syllables)
    (hquery : ∀ c ∈ query, c ∈ Marking.standard.alphabet ∨ isBlank c = true) {t : Text}
    (hfinds : (Compiler.ofTable table).finds false query t = .ok true) :
    ∃ found, (Compiler.ofTable table).finds false (upper query) (upper t) = .ok found ∧
      (found = true ↔ SpelledAsStored table query) := by
  have hexact : (Modes.start false).casing = .exact := rfl
  obtain ⟨small, hsmall, hiff⟩ := Compiler.finds_iff h false query t
  obtain rfl := Except.ok.inj (hsmall.symm.trans hfinds)
  obtain ⟨w, hw, hwt⟩ := hiff.1 rfl
  obtain ⟨found, hfound, hiff'⟩ := Compiler.finds_iff h false (upper query) (upper t)
  rw [hexact] at hw hiff'
  refine ⟨found, hfound, hiff'.trans ?_⟩
  constructor
  · rintro ⟨w', hw', hpart⟩
    by_contra hspelled
    -- no text in capitals has the small letter that the pattern asks for
    obtain ⟨d, hd, hmem⟩ := exists_small_piece h hquery hspelled
    exact notMem_upper hd t (hpart.subset (mem_of_letter_mem hmem hw'))
  · intro hspelled
    refine ⟨upper w, upper_mem_languageOf (raises_queryPieces h hquery hspelled) hw, ?_⟩
    obtain ⟨left, right, rfl⟩ := hwt
    exact ⟨upper left, upper right, by rw [upper_append, upper_append]⟩

/-- Over the syllable jué the query `jvexi` finds juéxi, and in capitals it does not: the pattern has
the small u of the table. -/
theorem finds_upper_iff_jvexi :
    let table : SyllableTable := ⟨[(['j', 'u', 'e'], ['j', 'u', 'é'])]⟩
    let query := ['j', 'v', 'e', 'x', 'i']
    let t := ['j', 'u', 'é', 'x', 'i']
    (Compiler.ofTable table).finds false query t = .ok true ∧
      (Compiler.ofTable table).finds false (upper query) (upper t) = .ok false ∧
      ¬SpelledAsStored table query := by
  intro table query t
  have htable : table.IsBuiltFrom [['j', 'u', 'é']] := ⟨by decide, by decide⟩
  have hsmall : (Compiler.ofTable table).finds false query t = .ok true := by decide
  have hcapitals : (Compiler.ofTable table).finds false (upper query) (upper t) = .ok false := by
    decide
  obtain ⟨found, hfound, hiff⟩ := finds_upper_iff htable (by decide) hsmall
  obtain rfl := Except.ok.inj (hfound.symm.trans hcapitals)
  exact ⟨hsmall, hcapitals, fun hspelled => Bool.false_ne_true (hiff.2 hspelled)⟩

end Query

end TonelessPinyin

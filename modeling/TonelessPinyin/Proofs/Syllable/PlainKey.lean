import TonelessPinyin.Proofs.Tone.Search

/-!
Plain keys, character by character. In the lower case of a syllable the first toned letter becomes
its plain vowel, and everywhere else v and ü become u. Clusters of two letters make no difference.
-/
namespace TonelessPinyin

open Text Pattern Syllable

/-! ## Plain keys -/

theorem foldLetter_foldLetter (c : Char) : foldLetter (foldLetter c) = foldLetter c := by
  by_cases h : c = 'v' ∨ c = 'ü'
  · simp [foldLetter, h]
  · simp [foldLetter, h]

theorem foldLetter_plainLetter (c : Char) : foldLetter (plainLetter c) = plainLetter c :=
  foldLetter_foldLetter (untoned c)

theorem normalizeKey_of_lowered {t : Text} (h : IsLowered t) :
    normalizeKey t = t.map foldLetter := by
  rw [normalizeKey, h.lower_eq]

/-- The first toned letter without its tone, and every v and ü as u. -/
def plainKey (t : Text) : Text :=
  t.mapIdx fun i c => if i = t.findIdx isToned then plainLetter c else foldLetter c

theorem length_plainKey (t : Text) : (plainKey t).length = t.length := List.length_mapIdx

theorem plainKey_cons_of_isToned {c : Char} (hc : isToned c = true) (t : Text) :
    plainKey (c :: t) = plainLetter c :: t.map foldLetter := by
  have hrest : (t.mapIdx fun _ d => foldLetter d) = t.map foldLetter :=
    List.ext_getElem (by simp) (by simp)
  simp [plainKey, List.findIdx_cons, hc, hrest]

theorem plainKey_cons_of_not_isToned {c : Char} (hc : isToned c = false) (t : Text) :
    plainKey (c :: t) = foldLetter c :: plainKey t := by
  simp [plainKey, List.findIdx_cons, hc]

theorem plainKey_append {before : Text} (hbefore : ∀ c ∈ before, isToned c = false) (t : Text) :
    plainKey (before ++ t) = before.map foldLetter ++ plainKey t := by
  induction before with
  | nil => rfl
  | cons c before ih =>
    obtain ⟨hc, hbefore⟩ := List.forall_mem_cons.1 hbefore
    rw [List.cons_append, plainKey_cons_of_not_isToned hc, ih hbefore]
    rfl

/-- An ü in a cluster becomes u, as it does outside. -/
theorem plainKey_cluster {cluster base : Text} (h : SpellsVowel cluster base) (after : Text) :
    plainKey (cluster ++ after) = cluster.map plainLetter ++ after.map foldLetter := by
  obtain ⟨opening, c, rfl, hc, hopening⟩ := h.exists_eq_append
  have huntoned : ∀ d ∈ opening, isToned d = false := by
    intro d hd
    rw [hopening d hd]
    decide
  have hplain : opening.map plainLetter = opening.map foldLetter := by
    apply List.map_congr_left
    intro d hd
    rw [hopening d hd]
    decide
  rw [List.append_assoc, plainKey_append huntoned, List.singleton_append,
    plainKey_cons_of_isToned hc, List.map_append, hplain, List.append_assoc]
  rfl

/-! ## Plain keys are normalised -/

theorem lowerLetter_foldLetter {c : Char} (h : lowerLetter c = c) :
    lowerLetter (foldLetter c) = foldLetter c := by
  rw [foldLetter]
  split_ifs
  · decide
  · exact h

/-- What is normalised is in lower case, so it stays as it is. -/
theorem normalizeKey_normalizeKey (t : Text) : normalizeKey (normalizeKey t) = normalizeKey t := by
  have hlowered : IsLowered (normalizeKey t) := by
    intro c hc
    obtain ⟨d, hd, rfl⟩ := List.mem_map.1 hc
    exact lowerLetter_foldLetter (isLowered_lower t d hd)
  rw [normalizeKey_of_lowered hlowered, normalizeKey, List.map_map]
  exact List.map_congr_left fun c _ => foldLetter_foldLetter c

theorem lowerLetter_plainLetter {c : Char} (h : lowerLetter c = c) :
    lowerLetter (plainLetter c) = plainLetter c := by
  cases htoned : isToned c with
  | false =>
    rw [plainLetter, untoned_of_not_isToned htoned]
    exact lowerLetter_foldLetter h
  | true =>
    have hplain : ∀ c ∈ Marking.standard.tonedLetters,
        lowerLetter (plainLetter c) = plainLetter c := by
      decide
    exact hplain c (List.contains_iff_mem.1 htoned)

theorem mem_plainKey {t : Text} {d : Char} (h : d ∈ plainKey t) :
    ∃ c ∈ t, d = plainLetter c ∨ d = foldLetter c := by
  obtain ⟨i, hi, rfl⟩ := List.mem_mapIdx.1 h
  refine ⟨t[i], List.getElem_mem hi, ?_⟩
  split_ifs
  · exact .inl rfl
  · exact .inr rfl

theorem foldLetter_of_mem_plainKey {t : Text} {d : Char} (h : d ∈ plainKey t) :
    foldLetter d = d := by
  obtain ⟨c, -, rfl | rfl⟩ := mem_plainKey h
  · exact foldLetter_plainLetter c
  · exact foldLetter_foldLetter c

theorem isLowered_plainKey {t : Text} (h : IsLowered t) : IsLowered (plainKey t) := by
  intro d hd
  obtain ⟨c, hc, rfl | rfl⟩ := mem_plainKey hd
  · exact lowerLetter_plainLetter (h c hc)
  · exact lowerLetter_foldLetter (h c hc)

/-- A plain key is its own key. -/
theorem normalizeKey_plainKey {t : Text} (h : IsLowered t) :
    normalizeKey (plainKey t) = plainKey t := by
  rw [normalizeKey_of_lowered (isLowered_plainKey h)]
  have hsame : (plainKey t).map foldLetter = (plainKey t).map id :=
    List.map_congr_left fun d hd => foldLetter_of_mem_plainKey hd
  rw [hsame, List.map_id]

/-! ## What is derived from a syllable -/

/-- The key of a syllable around its cluster. -/
def keyAround (before cluster after : Text) : Text :=
  before.map foldLetter ++ cluster.map plainLetter ++ after.map foldLetter

theorem length_keyAround (before cluster after : Text) :
    (keyAround before cluster after).length = (before ++ cluster ++ after).length := by
  simp [keyAround]

/-- A cluster that is found is replaced by its plain letters. -/
theorem derive_eq_keyAround {m : ToneModel} {syllable before cluster after : Text} {c : ToneCluster}
    (hsplit : lower syllable = before ++ cluster ++ after)
    (hsearch : m.search (lower syllable) =
      some ⟨before.length, before.length + cluster.length⟩)
    (hfind : m.find cluster = .ok c) (hspells : SpellsVowel cluster c.base) :
    derive .standard m syllable = .ok ⟨keyAround before cluster after, lower syllable⟩ := by
  obtain ⟨-, -, hplain, hfold⟩ := hspells.plain
  have hlowered : IsLowered (before ++ Marking.standard.plainBase c.base ++ after) := by
    have hsyllable := isLowered_lower syllable
    rw [hsplit, IsLowered.append_iff, IsLowered.append_iff] at hsyllable
    rw [IsLowered.append_iff, IsLowered.append_iff]
    exact ⟨⟨hsyllable.1.1, hplain.isLowered⟩, hsyllable.2⟩
  simp only [derive, hsearch, span_of_split hsplit, hfind, bind, Except.bind,
    take_of_split hsplit, drop_of_split hsplit, normalizeKey_of_lowered hlowered, List.map_append,
    hfold]
  rfl

variable {m : ToneModel}

theorem plainKey_eq_keyAround (hm : m.SpellsVowels) {before cluster base after : Text}
    (hspells : SpellsVowel cluster base)
    (hfirst : ∀ i < before.length, ∀ key ∈ m.clusters.keys,
      ¬key <+: (before ++ cluster ++ after).drop i) :
    plainKey (before ++ cluster ++ after) = keyAround before cluster after := by
  have hbefore : before <+: before ++ cluster ++ after := ⟨cluster ++ after, by simp⟩
  rw [List.append_assoc, plainKey_append (not_isToned_of_first hm hbefore hfirst),
    plainKey_cluster hspells, keyAround, List.append_assoc]

/-- What the clusters are makes no difference, as long as every toned letter is one. -/
theorem derive_of_spellsVowels (hm : m.SpellsVowels) (w : Text) :
    derive .standard m w =
      if (lower w).any isToned then .ok ⟨plainKey (lower w), lower w⟩
      else .error (.untonedSyllable (lower w)) := by
  have hlowered := isLowered_lower w
  cases hsearch : m.search (lower w) with
  | none =>
    have hnone := (search_eq_none_iff hm hlowered).1 hsearch
    rw [if_neg (by simpa using hnone), derive, hsearch]
  | some s =>
    obtain ⟨before, cluster, after, c, hsplit, rfl, hfind, hspells, hfirst⟩ :=
      exists_of_search hm hlowered hsearch
    have hany : (lower w).any isToned = true := by
      obtain ⟨d, hd, htoned⟩ := hspells.exists_toned
      exact List.any_eq_true.2 ⟨d, by simp [hsplit, hd], htoned⟩
    have hkey : plainKey (lower w) = keyAround before cluster after := by
      rw [hsplit] at hfirst ⊢
      exact plainKey_eq_keyAround hm hspells hfirst
    rw [if_pos hany, hkey, derive_eq_keyAround hsplit hsearch hfind hspells]

theorem derive_eq_ok_iff {s : Text} {d : Derived} :
    derive .standard .standard s = .ok d ↔
      (lower s).any isToned = true ∧ d = ⟨plainKey (lower s), lower s⟩ := by
  rw [derive_of_spellsVowels spellsVowels_standard]
  split_ifs with htoned
  · simp [htoned, eq_comm]
  · simp [htoned]

/-- The standard marking without vowels of two letters has a model. -/
theorem exists_model_without_compounds :
    ∃ simple, ToneModel.ofMarking { Marking.standard with compounds := [] } = .ok simple ∧
      simple.SpellsVowels :=
  ⟨_, rfl, ⟨by decide, by decide⟩⟩

/-- A syllable has a key just if its lower case has a toned letter, and the key is read off it
character by character. Without clusters of two letters the key is the same. -/
theorem derive_characterwise (w : Text) :
    (derive .standard .standard w =
        if (lower w).any isToned then .ok ⟨plainKey (lower w), lower w⟩
        else .error (.untonedSyllable (lower w))) ∧
      (plainKey (lower w)).length = (lower w).length ∧
      ∃ simple, ToneModel.ofMarking { Marking.standard with compounds := [] } = .ok simple ∧
        derive .standard simple w = derive .standard .standard w := by
  obtain ⟨simple, hsimple, hspells⟩ := exists_model_without_compounds
  refine ⟨derive_of_spellsVowels spellsVowels_standard w, length_plainKey _, simple, hsimple, ?_⟩
  rw [derive_of_spellsVowels hspells, derive_of_spellsVowels spellsVowels_standard]

example : plainKey "nüèǔ".toList = "nueǔ".toList := by decide

end TonelessPinyin

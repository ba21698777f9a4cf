import TonelessPinyin.Proofs.Query.Head
import TonelessPinyin.Syllable.Readings

/-!
Syllables from readings. Exactly the toned syllables among the texts of the readings are taken, each
once and in order. Whatever the readings are, they make a table of plain keys, over which every
query has a pattern.
-/
namespace TonelessPinyin

open Text Pattern Syllable

/-! ## The texts of readings -/

theorem separatedBy_eq_splitOn (separator : Char) (t : Text) :
    separatedBy separator t = t.splitOn separator := by
  induction t with
  | nil => rfl
  | cons c t ih =>
    obtain ⟨part, parts, hparts⟩ := List.exists_cons_of_ne_nil (List.splitOn_ne_nil separator t)
    rw [List.splitOn_eq_splitOnP] at ih hparts ⊢
    rw [separatedBy, ih, List.splitOnP_cons_eq_if_modifyHead, hparts]
    by_cases hc : c = separator <;> simp [hc]

theorem spelled_eq (readings : List Text) :
    spelled readings =
      (readings.flatMap fun r => r.splitOn ',').map fun part => lower (trim part) := by
  simp only [spelled, separatedBy_eq_splitOn, List.map_flatMap]

/-- What was seen before is left out, and nothing else. -/
theorem mem_firstOccurrences_iff {seen texts : List Text} {s : Text} :
    s ∈ firstOccurrences seen texts ↔ s ∈ texts ∧ s ∉ seen := by
  induction texts generalizing seen with
  | nil => simp [firstOccurrences]
  | cons t rest ih =>
    by_cases ht : t ∈ seen
    · have hne : s = t → s ∈ seen := fun h => h ▸ ht
      rw [firstOccurrences, if_pos (by simpa using ht), ih, List.mem_cons]
      tauto
    · have hne : s = t → s ∉ seen := fun h => h ▸ ht
      rw [firstOccurrences, if_neg (by simpa using ht), List.mem_cons, ih, List.mem_cons,
        List.mem_cons]
      tauto

/-- They stand in the order in which they first came. -/
theorem pairwise_firstOccurrences (seen texts : List Text) :
    (firstOccurrences seen texts).Pairwise fun s s' => texts.idxOf s < texts.idxOf s' := by
  induction texts generalizing seen with
  | nil => exact .nil
  | cons t rest ih =>
    -- a text that is not the first one stands one place later
    have hlater {seen : List Text} (ht : t ∈ seen) :
        (firstOccurrences seen rest).Pairwise fun s s' =>
          (t :: rest).idxOf s < (t :: rest).idxOf s' := by
      refine (ih seen).imp_of_mem ?_
      intro s s' hs hs' hlt
      have hne : t ≠ s := fun h => (mem_firstOccurrences_iff.1 hs).2 (h ▸ ht)
      have hne' : t ≠ s' := fun h => (mem_firstOccurrences_iff.1 hs').2 (h ▸ ht)
      rw [List.idxOf_cons_ne rest hne, List.idxOf_cons_ne rest hne']
      exact Nat.succ_lt_succ hlt
    by_cases ht : t ∈ seen
    · rw [firstOccurrences, if_pos (by simpa using ht)]
      exact hlater ht
    · rw [firstOccurrences, if_neg (by simpa using ht), List.pairwise_cons]
      refine ⟨?_, hlater List.mem_cons_self⟩
      intro s hs
      have hne : t ≠ s := fun h =>
        (mem_firstOccurrences_iff.1 hs).2 (h ▸ List.mem_cons_self)
      rw [List.idxOf_cons_self, List.idxOf_cons_ne rest hne]
      exact Nat.succ_pos _

/-! ## What is taken from readings -/

theorem ofReadings_standard (readings : List Text) :
    ofReadings .standard readings =
      .ok ((firstOccurrences [] (spelled readings)).filter (Syllable.isToned .standard)) := by
  have hletters : Marking.standard.letters.isEmpty = false := by decide
  rw [ofReadings, hletters]
  rfl

/-- A text of the letters in which a cluster is found, which is to say that one of them is toned. -/
theorem isToned_standard_iff {s : Text} :
    Syllable.isToned .standard s = true ↔ s ≠ [] ∧ IsSpelled s ∧ ∃ c ∈ s, isToned c = true := by
  have hletters : s.all Marking.standard.letters.contains = true ↔ IsSpelled s := by
    simp [IsSpelled]
  rw [Syllable.isToned, Bool.and_eq_true, Bool.and_eq_true, hletters, and_assoc]
  refine and_congr (by simp) (and_congr_right fun hspelled => ?_)
  have hnone := search_eq_none_iff spellsVowels_standard hspelled.isLowered
  rw [← Option.ne_none_iff_isSome, Ne, hnone]
  simp

/-- What is taken from readings are the texts between their commas, without the blanks around them
and in lower case, as far as they are of the letters of syllables and one letter is toned. None
comes twice, and they stand in the order in which they first came. -/
theorem ofReadings_exact (readings : List Text) :
    let parts := (readings.flatMap fun r => r.splitOn ',').map fun part => lower (trim part)
    ∃ syllables, ofReadings .standard readings = .ok syllables ∧ syllables.Nodup ∧
      (∀ s, s ∈ syllables ↔
        s ∈ parts ∧ s ≠ [] ∧ IsSpelled s ∧ ∃ c ∈ s, isToned c = true) ∧
      syllables.Pairwise fun s s' => parts.idxOf s < parts.idxOf s' := by
  intro parts
  have hparts : spelled readings = parts := spelled_eq readings
  have horder : ((firstOccurrences [] parts).filter (Syllable.isToned .standard)).Pairwise
      fun s s' => parts.idxOf s < parts.idxOf s' :=
    (pairwise_firstOccurrences [] parts).filter _
  refine ⟨_, hparts ▸ ofReadings_standard readings, horder.imp ?_, ?_, horder⟩
  · rintro s s' hlt rfl
    exact lt_irrefl _ hlt
  · intro s
    rw [List.mem_filter, mem_firstOccurrences_iff, isToned_standard_iff]
    simp

/-- Readings without a tone and with other letters are left out, and so are doubles. -/
example : ofReadings .standard ["lǜ, LǛ,,lu".toList, "ń,Lǜ".toList, "zhāng\t".toList] =
    .ok ["lǜ".toList, "zhāng".toList] := by
  rfl

/-- What is taken from readings is spelled around a cluster. -/
theorem carriesTone_of_mem_ofReadings {readings syllables : List Text}
    (h : ofReadings .standard readings = .ok syllables) {s : Text} (hs : s ∈ syllables) :
    IsSpelled s ∧ ∃ before cluster after base, CarriesTone s before cluster after base := by
  rw [ofReadings_standard] at h
  obtain rfl := Except.ok.inj h
  have htoned := (List.mem_filter.1 hs).2
  rw [Syllable.isToned, Bool.and_eq_true, Bool.and_eq_true, List.all_eq_true] at htoned
  obtain ⟨⟨-, hletters⟩, hsearch⟩ := htoned
  have hspelled : IsSpelled s := fun c hc => List.contains_iff_mem.1 (hletters c hc)
  obtain ⟨span, hspan⟩ := Option.isSome_iff_exists.1 hsearch
  obtain ⟨before, cluster, after, base, hcarries, -⟩ :=
    carriesTone_of_search hspelled.isLowered hspan
  exact ⟨hspelled, before, cluster, after, base, hcarries⟩

/-! ## Tables that can be built -/

namespace SyllableTable

theorem exists_isBuiltFrom {syllables : List Text}
    (h : ∀ s ∈ syllables, IsSpelled s ∧
      ∃ before cluster after base, CarriesTone s before cluster after base) :
    ∃ table : SyllableTable, table.IsBuiltFrom syllables := by
  have hspelled : ∀ s ∈ syllables, IsSpelled (lower s) := by
    intro s hs
    rw [(h s hs).1.lower_eq]
    exact (h s hs).1
  have htoned : ∀ s ∈ syllables, (lower s).any isToned = true := by
    intro s hs
    obtain ⟨before, cluster, after, base, hcarries⟩ := (h s hs).2
    rw [← (h s hs).1.lower_eq] at hcarries
    exact (derive_eq_ok_iff.1 hcarries.derive_eq).1
  have hfind : syllables.find? (fun s => !(lower s).any isToned) = none := by
    simpa using htoned
  exact ⟨_, build_of_toned hfind, hspelled⟩

/-- Keys are spelled, without v and ü. -/
theorem IsBuiltFrom.foldLetter_eq {table : SyllableTable} {syllables : List Text}
    (h : table.IsBuiltFrom syllables) {key : Text} (hkey : key ∈ table.entries.keys) :
    IsSpelled key ∧ ∀ c ∈ key, foldLetter c = c := by
  obtain ⟨p, hp, rfl⟩ := List.mem_map.1 hkey
  obtain ⟨s, hs, hlower, before, cluster, after, base, hcarries, heq⟩ := h.entry hp
  have hspelled : IsSpelled p.2 := hlower ▸ h.spelled s hs
  refine ⟨heq ▸ hspelled.keyAround hcarries, ?_⟩
  rw [heq, ← hcarries.plainKey_eq]
  exact fun c hc => foldLetter_of_mem_plainKey hc

end SyllableTable

/-! ## The table of readings -/

/-- A small letter from a to z other than v. -/
def isPlainLetter (c : Char) : Bool := 'a' ≤ c && c ≤ 'z' && c != 'v'

theorem isPlainLetter_or_isToned_of_foldLetter_eq :
    ∀ c ∈ Marking.standard.letters, foldLetter c = c →
      isPlainLetter c = true ∨ c ∈ Marking.standard.tonedLetters := by
  decide

/-- From any readings a table is built. Its keys are plain or toned letters, and over it every
pinyin query has a pattern. -/
theorem exists_table_of_readings (readings : List Text) :
    ∃ syllables table, ofReadings .standard readings = .ok syllables ∧
      SyllableTable.build .standard .standard syllables = .ok table ∧
      (∀ key ∈ table.entries.keys, ∀ c ∈ key,
        isPlainLetter c = true ∨ c ∈ Marking.standard.tonedLetters) ∧
      ∀ query, ∃ pattern, (Compiler.ofTable table).compile query .pinyin = .ok pattern := by
  have hreadings := ofReadings_standard readings
  obtain ⟨table, htable⟩ := SyllableTable.exists_isBuiltFrom fun s hs =>
    carriesTone_of_mem_ofReadings hreadings hs
  refine ⟨_, table, hreadings, htable.build, ?_, ?_⟩
  · intro key hkey c hc
    obtain ⟨hspelled, hfixed⟩ := htable.foldLetter_eq hkey
    exact isPlainLetter_or_isToned_of_foldLetter_eq c (hspelled c hc) (hfixed c hc)
  · intro query
    exact ⟨_, Query.compile_eq_sourceOf htable query⟩

end TonelessPinyin

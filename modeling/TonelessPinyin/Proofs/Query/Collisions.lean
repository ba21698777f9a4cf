import TonelessPinyin.Proofs.Query.EscapedHead
import TonelessPinyin.Proofs.Query.Plain

/-!
Syllables with one key. Their patterns are the same just if they differ in nothing but their tone
clusters, so the order of the syllables of a table makes no difference to any query just if this
holds of all of them that share a key.
-/
namespace TonelessPinyin

open Text Pattern Syllable

/-- What stands before and after the first tone cluster of a syllable. -/
def outsideTone (toned : Text) : Option (Text × Text) :=
  (ToneModel.standard.search toned).map fun s => (toned.take s.start, toned.drop s.stop)

theorem CarriesTone.outsideTone_eq {toned before cluster after base : Text}
    (h : CarriesTone toned before cluster after base) : outsideTone toned = some (before, after) := by
  rw [outsideTone, h.search, Option.map_some, take_of_split h.split, drop_of_split h.split]

namespace Query

/-! ## The parts of a head's pattern -/

theorem exists_flatMap_set {sets : List Text} (h : sets ≠ []) :
    ∃ middle, sets.flatMap VowelClasses.set = '[' :: (middle ++ [']']) := by
  induction sets with
  | nil => exact absurd rfl h
  | cons letters sets ih =>
    by_cases hsets : sets = []
    · exact ⟨letters, by simp [hsets, VowelClasses.set]⟩
    · obtain ⟨middle, hmiddle⟩ := ih hsets
      refine ⟨letters ++ ']' :: '[' :: middle, ?_⟩
      rw [List.flatMap_cons, hmiddle]
      simp [VowelClasses.set]

/-- A vowel's pattern is between brackets. -/
theorem exists_sourceOf_vowelPieces (tones : Tones) {key : Text} (h : key ∈ vowelKeys)
    (surface : Text) :
    ∃ middle, sourceOf (vowelPieces tones key surface) = '[' :: (middle ++ [']']) := by
  have hne : ∀ k ∈ vowelKeys, tones.lettersOf k ≠ [] := by cases tones <;> decide
  have hsets : sourceOf (vowelPieces tones key surface) =
      ((tones.lettersOf key).map (inCaseOf surface)).flatMap VowelClasses.set := by
    rw [sourceOf, vowelPieces, List.flatMap_map, List.flatMap_map]
    rfl
  rw [hsets]
  exact exists_flatMap_set (by simpa using hne key h)

/-- The letter that is written has the lower case of the table's. -/
theorem lower_inCaseOfLetter (c : Char) {d : Char} (hd : d ∈ Marking.standard.letters) :
    lower [inCaseOfLetter c d] = [d] := by
  rw [inCaseOfLetter]
  split_ifs with h
  · exact h
  · exact lower_letter hd

theorem flatMap_lower_zipWith {surface toned : Text} (htoned : IsSpelled toned)
    (hlength : surface.length = toned.length) :
    (List.zipWith inCaseOfLetter surface toned).flatMap (fun c => lower [c]) = toned := by
  induction toned generalizing surface with
  | nil => simp
  | cons d toned ih =>
    obtain ⟨c, surface, rfl⟩ : ∃ c rest, surface = c :: rest :=
      List.exists_cons_of_length_pos (by simp [hlength])
    obtain ⟨hd, htoned⟩ := List.forall_mem_cons.1 htoned
    rw [List.zipWith_cons_cons, List.flatMap_cons, lower_inCaseOfLetter c hd,
      ih htoned (by simpa using hlength)]
    rfl

theorem not_special_zipWith {surface toned : Text} (htoned : IsSpelled toned) :
    ∀ c ∈ List.zipWith inCaseOfLetter surface toned, c ∉ specials := by
  intro e he
  obtain ⟨c, d, hcd, rfl⟩ : ∃ c d, (c, d) ∈ surface.zip toned ∧ inCaseOfLetter c d = e := by
    rw [← List.map_uncurry_zip_eq_zipWith] at he
    obtain ⟨⟨c, d⟩, hcd, rfl⟩ := List.mem_map.1 he
    exact ⟨c, d, hcd, rfl⟩
  have hd := htoned d (List.of_mem_zip hcd).2
  apply not_special_of_isSpelled_lower (t := [inCaseOfLetter c d])
  · rw [lower_inCaseOfLetter c hd]
    exact List.forall_mem_singleton.2 hd
  · exact List.mem_singleton_self _

/-- A syllable around its cluster, and a text that has its key. -/
structure IsKeyed (toned before cluster after base surface : Text) : Prop where
  spelled : IsSpelled toned
  carriesTone : CarriesTone toned before cluster after base
  key : normalizeKey surface = keyAround before cluster after

namespace IsKeyed

variable {toned before cluster after base surface : Text}

theorem parts (h : IsKeyed toned before cluster after base surface) :
    IsSpelled before ∧ IsSpelled cluster ∧ IsSpelled after := by
  have hspelled := h.spelled
  rwa [h.carriesTone.split, IsSpelled.append_append_iff] at hspelled

theorem length_eq (h : IsKeyed toned before cluster after base surface) :
    surface.length = toned.length := by
  have hlower : IsSpelled (lower surface) := by
    have hkey := h.spelled.keyAround h.carriesTone
    rwa [← h.key, normalizeKey, isSpelled_map_foldLetter_iff] at hkey
  have hlength := congrArg List.length (map_normalizeKey_of_spelled_lower hlower)
  rw [List.length_map, h.key, List.length_map, length_keyAround, ← h.carriesTone.split] at hlength
  exact hlength

theorem syllablePattern_eq (h : IsKeyed toned before cluster after base surface) :
    syllablePattern .exact .standard toned (some surface) =
      .ok (sourceOf (headPieces toned surface)) :=
  syllablePattern_eq_sourceOf h.carriesTone h.length_eq

/-- The letters before and after the cluster can be read off the pattern. -/
theorem exists_source (h : IsKeyed toned before cluster after base surface) :
    ∃ middle, sourceOf (headPieces toned surface) =
      List.zipWith inCaseOfLetter (surface.take before.length) before ++ '[' :: (middle ++ ']' ::
        List.zipWith inCaseOfLetter (surface.drop (before.length + cluster.length)) after) := by
  obtain ⟨hbefore, -, hafter⟩ := h.parts
  obtain ⟨middle, hmiddle⟩ := exists_sourceOf_vowelPieces .required
    h.carriesTone.spells.vowelOf_mem_keys ((surface.drop before.length).take cluster.length)
  refine ⟨middle, ?_⟩
  simp only [headPieces, h.carriesTone.aroundTone_eq, sourceOf_append, ← escape_eq_sourceOf, hmiddle,
    escape_eq_self (not_special_zipWith hbefore), escape_eq_self (not_special_zipWith hafter),
    List.drop_drop]
  simp

end IsKeyed

theorem eq_of_append_cons {c : Char} {a b x y : Text} (ha : c ∉ a) (hb : c ∉ b)
    (h : a ++ c :: x = b ++ c :: y) : a = b := by
  have htaken {t : Text} (ht : c ∉ t) (rest : Text) : (t ++ c :: rest).takeWhile (· ≠ c) = t := by
    rw [List.takeWhile_append_of_pos, List.takeWhile_cons_of_neg (by simp), List.append_nil]
    intro d hd
    simpa using ne_of_mem_of_not_mem hd ht
  rw [← htaken ha x, h, htaken hb]

variable {toned before cluster after base toned' before' cluster' after' base' surface : Text}

theorem eq_of_zipWith_eq {written written' letters letters' : Text} (hspelled : IsSpelled letters)
    (hspelled' : IsSpelled letters') (hlength : written.length = letters.length)
    (hlength' : written'.length = letters'.length)
    (h : List.zipWith inCaseOfLetter written letters =
      List.zipWith inCaseOfLetter written' letters') : letters = letters' := by
  rw [← flatMap_lower_zipWith hspelled hlength, h, flatMap_lower_zipWith hspelled' hlength']

/-- Syllables with one key and one pattern are the same outside their clusters. -/
theorem outside_eq_of_source_eq (h : IsKeyed toned before cluster after base surface)
    (h' : IsKeyed toned' before' cluster' after' base' surface)
    (hsource : sourceOf (headPieces toned surface) = sourceOf (headPieces toned' surface)) :
    before = before' ∧ after = after' := by
  obtain ⟨hbefore, -, hafter⟩ := h.parts
  obtain ⟨hbefore', -, hafter'⟩ := h'.parts
  obtain ⟨middle, hmiddle⟩ := h.exists_source
  obtain ⟨middle', hmiddle'⟩ := h'.exists_source
  have hlength : surface.length = before.length + cluster.length + after.length := by
    rw [h.length_eq, h.carriesTone.split, List.length_append, List.length_append]
  have hlength' : surface.length = before'.length + cluster'.length + after'.length := by
    rw [h'.length_eq, h'.carriesTone.split, List.length_append, List.length_append]
  have hplain {bracket : Char} (hbracket : bracket ∈ specials) {written letters : Text}
      (hletters : IsSpelled letters) : bracket ∉ List.zipWith inCaseOfLetter written letters :=
    fun hm => not_special_zipWith hletters _ hm hbracket
  rw [hmiddle, hmiddle'] at hsource
  constructor
  · have hfirst := eq_of_append_cons (hplain (by decide) hbefore) (hplain (by decide) hbefore')
      hsource
    apply eq_of_zipWith_eq hbefore hbefore' _ _ hfirst
    · rw [List.length_take, hlength]
      omega
    · rw [List.length_take, hlength']
      omega
  · -- read from the end, the letters after the cluster come before the last bracket
    have hreversed := congrArg List.reverse hsource
    simp only [List.reverse_append, List.reverse_cons, List.append_assoc, List.singleton_append]
      at hreversed
    have hlast := eq_of_append_cons (by simpa using hplain (by decide) hafter)
      (by simpa using hplain (by decide) hafter') hreversed
    apply eq_of_zipWith_eq hafter hafter' _ _ (List.reverse_injective hlast)
    · rw [List.length_drop, hlength]
      omega
    · rw [List.length_drop, hlength']
      omega

/-- Clusters with the same plain letters have the same pattern. -/
theorem lettersOf_vowelOf_eq (h : SpellsVowel cluster base) (h' : SpellsVowel cluster' base')
    (hplain : cluster.map plainLetter = cluster'.map plainLetter) :
    Tones.required.lettersOf (vowelOf cluster) = Tones.required.lettersOf (vowelOf cluster') := by
  have hletters : ∀ c ∈ Marking.standard.tonedLetters, ∀ d ∈ Marking.standard.tonedLetters,
      plainLetter c = plainLetter d →
        Tones.required.forms (untoned c) = Tones.required.forms (untoned d) := by
    decide
  have hlength := congrArg List.length hplain
  rcases h with ⟨c, hc, rfl, -⟩ | ⟨c, hc, rfl, -⟩ <;>
    rcases h' with ⟨d, hd, rfl, -⟩ | ⟨d, hd, rfl, -⟩
  · exact congrArg (fun letters => [letters]) (hletters c hc d hd (List.singleton_inj.1 hplain))
  · simp at hlength
  · simp at hlength
  · rfl

/-- Syllables with one key that are the same outside their clusters have the same pieces. -/
theorem headPieces_eq_of_outside_eq (h : CarriesTone toned before cluster after base)
    (h' : CarriesTone toned' before cluster' after base')
    (hkey : keyAround before cluster after = keyAround before cluster' after) :
    headPieces toned surface = headPieces toned' surface := by
  have hplain : cluster.map plainLetter = cluster'.map plainLetter := by
    rw [keyAround, keyAround, List.append_assoc, List.append_assoc] at hkey
    exact List.append_cancel_right (List.append_cancel_left hkey)
  have hlength : cluster.length = cluster'.length := by simpa using congrArg List.length hplain
  simp only [headPieces, h.aroundTone_eq, h'.aroundTone_eq, vowelPieces,
    lettersOf_vowelOf_eq h.spells h'.spells hplain, hlength]

theorem headPieces_eq_of_outsideTone_eq (h : IsKeyed toned before cluster after base surface)
    (h' : IsKeyed toned' before' cluster' after' base' surface)
    (houtside : outsideTone toned = outsideTone toned') :
    headPieces toned surface = headPieces toned' surface := by
  rw [h.carriesTone.outsideTone_eq, h'.carriesTone.outsideTone_eq, Option.some_inj,
    Prod.mk.injEq] at houtside
  obtain ⟨rfl, rfl⟩ := houtside
  exact headPieces_eq_of_outside_eq h.carriesTone h'.carriesTone (h.key.symm.trans h'.key)

theorem source_eq_iff (h : IsKeyed toned before cluster after base surface)
    (h' : IsKeyed toned' before' cluster' after' base' surface) :
    sourceOf (headPieces toned surface) = sourceOf (headPieces toned' surface) ↔
      outsideTone toned = outsideTone toned' := by
  constructor
  · intro hsource
    rw [h.carriesTone.outsideTone_eq, h'.carriesTone.outsideTone_eq, Option.some_inj,
      Prod.mk.injEq]
    exact outside_eq_of_source_eq h h' hsource
  · intro houtside
    exact congrArg sourceOf (headPieces_eq_of_outsideTone_eq h h' houtside)

theorem exists_isKeyed {s : Text} (hs : IsSpelled (lower s))
    (hkey : keyOf? s = some (normalizeKey surface)) :
    ∃ before cluster after base, IsKeyed (lower s) before cluster after base surface := by
  obtain ⟨d, hd, hplain⟩ := Option.map_eq_some_iff.1 hkey
  obtain ⟨before, cluster, after, base, hcarries, rfl⟩ :=
    carriesTone_of_derive (derived?_eq_some_iff.1 hd)
  exact ⟨before, cluster, after, base, hs, hcarries, hplain.symm⟩

/-- Two syllables with the key of a surface have the same pattern there just if they are the same
outside their clusters. -/
theorem syllablePattern_eq_iff {s s' : Text} (hs : IsSpelled s) (hs' : IsSpelled s')
    (hkey : keyOf? s = some (normalizeKey surface))
    (hkey' : keyOf? s' = some (normalizeKey surface)) :
    ∃ pattern pattern', syllablePattern .exact .standard s (some surface) = .ok pattern ∧
      syllablePattern .exact .standard s' (some surface) = .ok pattern' ∧
      (pattern = pattern' ↔ outsideTone s = outsideTone s') := by
  obtain ⟨_, _, _, _, hkeyed⟩ := exists_isKeyed (hs.lower_eq.symm ▸ hs) hkey
  obtain ⟨_, _, _, _, hkeyed'⟩ := exists_isKeyed (hs'.lower_eq.symm ▸ hs') hkey'
  rw [hs.lower_eq] at hkeyed
  rw [hs'.lower_eq] at hkeyed'
  exact ⟨_, _, hkeyed.syllablePattern_eq, hkeyed'.syllablePattern_eq, source_eq_iff hkeyed hkeyed'⟩

end Query

/-! ## Syllables in another order -/

namespace SyllableTable

variable {table : SyllableTable} {syllables syllables' : List Text}

theorem toned_of_build (h : SyllableTable.build .standard .standard syllables = .ok table) :
    ∀ s ∈ syllables, (lower s).any isToned = true := by
  cases hfind : syllables.find? fun s => !(lower s).any isToned with
  | none => simpa using hfind
  | some s =>
    rw [build_of_untoned hfind] at h
    cases h

namespace IsBuiltFrom

theorem perm (h : table.IsBuiltFrom syllables) (hperm : syllables'.Perm syllables) :
    SyllableTable.IsBuiltFrom ⟨entriesOf syllables'⟩ syllables' := by
  refine ⟨build_of_toned ?_, fun s hs => h.spelled s (hperm.mem_iff.1 hs)⟩
  rw [List.find?_eq_none]
  intro s hs
  simp [toned_of_build h.build s (hperm.mem_iff.1 hs)]

/-- The order of the syllables makes no difference to what a table has. -/
theorem contains_perm {table' : SyllableTable} (h : table.IsBuiltFrom syllables)
    (h' : table'.IsBuiltFrom syllables') (hperm : syllables'.Perm syllables) (t : Text) :
    table'.contains t = table.contains t := by
  obtain rfl := eq_of_build h.build
  obtain rfl := eq_of_build h'.build
  rw [Bool.eq_iff_iff, (tabulates_entriesOf syllables').contains_iff,
    (tabulates_entriesOf syllables).contains_iff]
  simp only [hperm.mem_iff]

/-- What is found for a key is a syllable with this key. -/
theorem exists_of_get? (h : table.IsBuiltFrom syllables) {t toned : Text}
    (hget : table.get? t = some toned) :
    ∃ s ∈ syllables, lower s = toned ∧ keyOf? s = some (normalizeKey t) := by
  obtain ⟨s, hs, hderive⟩ := derive_of_get? h.build hget
  obtain ⟨htoned, heq⟩ := derive_eq_ok_iff.1 hderive
  obtain ⟨hkey, rfl⟩ := Derived.mk.inj heq
  exact ⟨s, hs, rfl, keyOf?_eq_some_iff.2 ⟨htoned, hkey⟩⟩

/-- The first syllable of all is found for its key. -/
theorem get?_first {s : Text} (h : table.IsBuiltFrom (s :: syllables)) {key : Text}
    (hkey : keyOf? s = some (normalizeKey key)) : table.get? key = some (lower s) := by
  obtain rfl := eq_of_build h.build
  change (entriesOf (s :: syllables)).get? (normalizeKey key) = some (lower s)
  rw [get?_entriesOf, List.find?_cons_of_pos (by simpa using hkey)]
  rfl

end IsBuiltFrom

end SyllableTable

namespace Query

open SyllableTable

variable {table table' : SyllableTable} {syllables syllables' : List Text}

/-- If syllables with one key are the same outside their clusters, their order makes no difference
to any query. -/
theorem queryPieces_perm (h : table.IsBuiltFrom syllables) (h' : table'.IsBuiltFrom syllables')
    (hperm : syllables'.Perm syllables)
    (houtside : ∀ s ∈ syllables, ∀ s' ∈ syllables, keyOf? s = keyOf? s' →
      outsideTone (lower s) = outsideTone (lower s')) (query : Text) :
    queryPieces table' query = queryPieces table query := by
  have hlength : headLength table' (escape query) = headLength table (escape query) :=
    longestSyllable_congr (fun n => h.contains_perm h' hperm _) _
  rw [queryPieces, queryPieces, hlength]
  cases hhead : headLength table (escape query) with
  | none => rfl
  | some n =>
    have hcontains := ((headLength_escape_eq_some_iff h).1 hhead).contains
    obtain ⟨toned, hget⟩ := Option.isSome_iff_exists.1 hcontains
    obtain ⟨toned', hget'⟩ :=
      Option.isSome_iff_exists.1 ((h.contains_perm h' hperm _).trans hcontains)
    obtain ⟨s, hs, rfl, hkey⟩ := h.exists_of_get? hget
    obtain ⟨s', hs', rfl, hkey'⟩ := h'.exists_of_get? hget'
    obtain ⟨_, _, _, _, hkeyed⟩ := exists_isKeyed (h.spelled s hs) hkey
    obtain ⟨_, _, _, _, hkeyed'⟩ := exists_isKeyed (h'.spelled s' hs') hkey'
    have hsame := houtside s' (hperm.mem_iff.1 hs') s hs (hkey'.trans hkey.symm)
    simp only [hget, hget', Option.getD_some,
      headPieces_eq_of_outsideTone_eq hkeyed' hkeyed hsame]

/-- A key with a blank after it has the key as its head. -/
theorem headLength_key (h : table.IsBuiltFrom syllables) {key : Text}
    (hcontains : table.contains key = true) (hlong : 2 ≤ key.length) :
    headLength table (escape (key ++ [' '])) = some key.length := by
  rw [headLength_escape_eq_some_iff h]
  refine ⟨hlong, by simp, by rwa [List.take_left], ?_⟩
  intro m hm hlt
  rw [List.length_append, List.length_singleton] at hlt
  omega

theorem queryPieces_key (h : table.IsBuiltFrom syllables) {key toned : Text}
    (hget : table.get? key = some toned) (hlong : 2 ≤ key.length) :
    queryPieces table (key ++ [' ']) =
      headPieces toned key ++ afterGap (piecesOf .optional [' ']) := by
  have hcontains : table.contains key = true := by rw [SyllableTable.contains, hget]; rfl
  simp only [queryPieces, headLength_key h hcontains hlong, List.take_left, List.drop_left, hget,
    Option.getD_some]

theorem outsideTone_of_short {toned before cluster after base surface : Text}
    (h : IsKeyed toned before cluster after base surface) (hshort : surface.length < 2) :
    outsideTone toned = some ([], []) := by
  obtain ⟨c, hc, -⟩ := h.carriesTone.spells.exists_toned
  have hcluster := List.length_pos_of_mem hc
  have hlength := h.length_eq
  rw [h.carriesTone.split, List.length_append, List.length_append] at hlength
  rw [h.carriesTone.outsideTone_eq, List.eq_nil_of_length_eq_zero (by omega : before.length = 0),
    List.eq_nil_of_length_eq_zero (by omega : after.length = 0)]

/-- If the key and a blank have the same pattern whichever syllable comes first, then the syllables
are the same outside their clusters. -/
theorem outsideTone_eq_of_compile_eq {s s' key : Text} (h : table.IsBuiltFrom (s :: syllables))
    (h' : table'.IsBuiltFrom (s' :: syllables')) (hkey : keyOf? s = some (normalizeKey key))
    (hkey' : keyOf? s' = some (normalizeKey key))
    (hsame : (Compiler.ofTable table).compile (key ++ [' ']) .pinyin =
      (Compiler.ofTable table').compile (key ++ [' ']) .pinyin) :
    outsideTone (lower s) = outsideTone (lower s') := by
  obtain ⟨_, _, _, _, hkeyed⟩ := exists_isKeyed (h.spelled s List.mem_cons_self) hkey
  obtain ⟨_, _, _, _, hkeyed'⟩ := exists_isKeyed (h'.spelled s' List.mem_cons_self) hkey'
  rcases Nat.lt_or_ge key.length 2 with hshort | hlong
  · rw [outsideTone_of_short hkeyed hshort, outsideTone_of_short hkeyed' hshort]
  · rw [compile_eq_sourceOf h, compile_eq_sourceOf h', queryPieces_key h (h.get?_first hkey) hlong,
      queryPieces_key h' (h'.get?_first hkey') hlong, sourceOf_append, sourceOf_append] at hsame
    exact (source_eq_iff hkeyed hkeyed').1 (List.append_cancel_right (Except.ok.inj hsame))

/-- Which of two syllables with one key stands for it makes no difference to the pattern of a head
just if they are the same outside their clusters. The order of the syllables of a table makes no
difference to any query just if this holds of all of its syllables that share a key. -/
theorem collisions_harmless_iff :
    (∀ s s' surface, IsSpelled s → IsSpelled s' → keyOf? s = some (normalizeKey surface) →
      keyOf? s' = some (normalizeKey surface) →
      ∃ pattern pattern', syllablePattern .exact .standard s (some surface) = .ok pattern ∧
        syllablePattern .exact .standard s' (some surface) = .ok pattern' ∧
        (pattern = pattern' ↔ outsideTone s = outsideTone s')) ∧
      ∀ table syllables, SyllableTable.IsBuiltFrom table syllables →
        ((∀ syllables', syllables'.Perm syllables → ∃ table',
          SyllableTable.IsBuiltFrom table' syllables' ∧
            ∀ query strategy, (Compiler.ofTable table').compile query strategy =
              (Compiler.ofTable table).compile query strategy) ↔
          ∀ s ∈ syllables, ∀ s' ∈ syllables, keyOf? s = keyOf? s' →
            outsideTone (lower s) = outsideTone (lower s')) := by
  refine ⟨fun s s' surface => syllablePattern_eq_iff, fun table syllables h => ⟨?_, ?_⟩⟩
  · intro hsame s hs s' hs' hkeys
    -- either of the two may come first
    obtain ⟨_, hfirst, hcompile⟩ := hsame _ (List.perm_cons_erase hs).symm
    obtain ⟨_, hfirst', hcompile'⟩ := hsame _ (List.perm_cons_erase hs').symm
    have hkey := keyOf?_eq_some_iff.2 ⟨toned_of_build h.build s hs, rfl⟩
    rw [← normalizeKey_plainKey (isLowered_lower s)] at hkey
    exact outsideTone_eq_of_compile_eq hfirst hfirst' hkey (hkeys ▸ hkey)
      ((hcompile _ _).trans (hcompile' _ _).symm)
  · intro houtside syllables' hperm
    have hbuilt := h.perm hperm
    refine ⟨_, hbuilt, fun query strategy => ?_⟩
    cases strategy with
    | regexp => rfl
    | pinyin =>
      rw [compile_eq_sourceOf hbuilt, compile_eq_sourceOf h,
        queryPieces_perm h hbuilt hperm houtside]

/-- The syllables nǚ and nù are the same outside their clusters, so either may stand for `nu`. -/
theorem collisions_harmless_iff_nu :
    let s := ['n', 'ǚ']
    let s' := ['n', 'ù']
    let surface := ['N', 'U']
    (keyOf? s = some (normalizeKey surface) ∧ keyOf? s' = some (normalizeKey surface)) ∧
      (syllablePattern .exact .standard s (some surface) =
        syllablePattern .exact .standard s' (some surface)) ∧
      ∃ table, SyllableTable.IsBuiltFrom table [s', s] ∧
        ∀ query strategy, (Compiler.ofTable table).compile query strategy =
          (Compiler.ofTable ⟨[(['n', 'u'], s)]⟩).compile query strategy := by
  intro s s' surface
  have hkeys : keyOf? s = some (normalizeKey surface) ∧ keyOf? s' = some (normalizeKey surface) := by
    decide
  have hbuilt : SyllableTable.IsBuiltFrom ⟨[(['n', 'u'], s)]⟩ [s, s'] := ⟨by decide, by decide⟩
  refine ⟨hkeys, ?_, ?_⟩
  · obtain ⟨_, _, hpattern, hpattern', hiff⟩ :=
      collisions_harmless_iff.1 s s' surface (by decide) (by decide) hkeys.1 hkeys.2
    rw [hpattern, hpattern', hiff.2 (by decide)]
  · exact (collisions_harmless_iff.2 _ _ hbuilt).2 (by decide) _ (.swap s s' [])

/-- Not every collision is harmless: luán and lüán differ before their clusters, so the first of them
decides how `luan` is written in a pattern. -/
theorem not_forall_collisions_harmless :
    (¬∀ s s' surface, IsSpelled s → IsSpelled s' → keyOf? s = some (normalizeKey surface) →
      keyOf? s' = some (normalizeKey surface) →
      syllablePattern .exact .standard s (some surface) =
        syllablePattern .exact .standard s' (some surface)) ∧
      ¬∀ table table' syllables syllables', SyllableTable.IsBuiltFrom table syllables →
        SyllableTable.IsBuiltFrom table' syllables' → syllables'.Perm syllables →
        ∀ query, (Compiler.ofTable table').compile query .pinyin =
          (Compiler.ofTable table).compile query .pinyin := by
  constructor
  · intro hall
    have hsame := hall ['l', 'u', 'á', 'n'] ['l', 'ü', 'á', 'n'] ['l', 'u', 'a', 'n'] (by decide)
      (by decide) (by decide) (by decide)
    revert hsame
    decide
  · intro hall
    have hsame := hall ⟨[(['l', 'u', 'a', 'n'], ['l', 'u', 'á', 'n'])]⟩
      ⟨[(['l', 'u', 'a', 'n'], ['l', 'ü', 'á', 'n'])]⟩ [['l', 'u', 'á', 'n'], ['l', 'ü', 'á', 'n']]
      [['l', 'ü', 'á', 'n'], ['l', 'u', 'á', 'n']] ⟨by decide, by decide⟩ ⟨by decide, by decide⟩
      (.swap _ _ []) ['l', 'u', 'a', 'n', 'x']
    revert hsame
    decide

end Query

end TonelessPinyin

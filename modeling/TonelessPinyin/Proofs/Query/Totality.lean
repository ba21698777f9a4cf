import TonelessPinyin.Proofs.Query.Head

/-!
When a query has a pattern. The head of a query is looked for in its escaped form and cut off its
plain one, so a table with a backslash in a key may miss the beginning that it is asked for. Over
syllables without a backslash every query has a pattern.
-/
namespace TonelessPinyin

open Text Pattern Syllable

/-! ## Any syllable that has a key -/

theorem spellsVowel_of_find {text : Text} {cluster : ToneCluster}
    (h : ToneModel.standard.find text = .ok cluster) : SpellsVowel (lower text) cluster.base := by
  rw [ToneModel.find, ToneModel.find?] at h
  cases hget : ToneModel.standard.clusters.get? (lower text) with
  | none => simp [hget] at h
  | some found =>
    obtain rfl : found = cluster := by simpa [hget] using h
    exact standard_clusters _ (Entries.mem_of_get? hget)

/-- A syllable that has a key has a cluster that can be looked up, and around it the key. -/
theorem cluster_of_derive {s : Text} {d : Derived} (h : derive .standard .standard s = .ok d) :
    d.toned = lower s ∧ ∃ span cluster, ToneModel.standard.search d.toned = some span ∧
      ToneModel.standard.find (span.of d.toned) = .ok cluster ∧
      d.plain = normalizeKey (d.toned.take span.start ++
        Marking.standard.plainBase cluster.base ++ d.toned.drop span.stop) := by
  rw [derive] at h
  cases hsearch : ToneModel.standard.search (lower s) with
  | none => simp [hsearch] at h
  | some span =>
    cases hfind : ToneModel.standard.find (span.of (lower s)) with
    | error e => simp [hsearch, hfind, bind, Except.bind] at h
    | ok cluster =>
      simp only [hsearch, hfind, bind, Except.bind] at h
      obtain rfl := Except.ok.inj h
      exact ⟨rfl, span, cluster, hsearch, hfind, rfl⟩

/-- Every syllable that has a key has a pattern. -/
theorem exists_syllablePattern {s : Text} {d : Derived}
    (h : derive .standard .standard s = .ok d) (surface : Option Text) :
    ∃ pattern, Query.syllablePattern .exact .standard d.toned surface = .ok pattern := by
  obtain ⟨-, span, cluster, hsearch, hfind, -⟩ := cluster_of_derive h
  have hfragment := Tones.required.find_classes (spellsVowel_of_find hfind).plain.1
  have hexact : VowelClasses.exact = Tones.required.classes := rfl
  simp only [Query.syllablePattern, hsearch, hfind, hexact, hfragment, bind, Except.bind]
  cases surface with
  | none => exact ⟨_, rfl⟩
  | some written =>
    dsimp only
    split_ifs <;> exact ⟨_, rfl⟩

/-! ## Special characters in keys -/

theorem mem_normalizeKey_special_iff {c : Char} (hc : c ∈ specials) (t : Text) :
    c ∈ normalizeKey t ↔ c ∈ t := by
  have hfold (d : Char) : foldLetter d = c ↔ d = c := by
    have hletters : ∀ c ∈ specials, c ≠ 'u' ∧ c ≠ 'v' ∧ c ≠ 'ü' := by decide
    obtain ⟨hu, hv, humlaut⟩ := hletters c hc
    rw [foldLetter]
    split_ifs with hd
    · rcases hd with rfl | rfl
      · exact ⟨fun h => absurd h.symm hu, fun h => absurd h.symm hv⟩
      · exact ⟨fun h => absurd h.symm hu, fun h => absurd h.symm humlaut⟩
    · rfl
  rw [normalizeKey, List.mem_map]
  simp only [hfold, exists_eq_right]
  exact mem_lower_special_iff hc t

/-- A special character of a key comes from the syllable. -/
theorem mem_of_mem_derive_special {s : Text} {d : Derived}
    (h : derive .standard .standard s = .ok d) {c : Char} (hc : c ∈ specials) (hm : c ∈ d.plain) :
    c ∈ s := by
  obtain ⟨htoned, span, cluster, -, hfind, hplain⟩ := cluster_of_derive h
  have hbase : c ∉ Marking.standard.plainBase cluster.base := by
    intro hbase
    have hspelled := (spellsVowel_of_find hfind).plain.2.2.1
    exact not_special_of_mem_letters c (hspelled c hbase) hc
  rw [hplain, mem_normalizeKey_special_iff hc, List.mem_append, List.mem_append] at hm
  rw [← mem_lower_special_iff hc, ← htoned]
  rcases hm with (hm | hm) | hm
  · exact List.mem_of_mem_take hm
  · exact absurd hm hbase
  · exact List.mem_of_mem_drop hm

namespace SyllableTable

variable {table : SyllableTable} {syllables : List Text}

theorem exists_mem_of_contains_special
    (hbuild : SyllableTable.build .standard .standard syllables = .ok table) {t : Text}
    (h : table.contains t = true) {c : Char} (hc : c ∈ specials) (hm : c ∈ t) :
    ∃ s ∈ syllables, c ∈ s := by
  obtain ⟨toned, hget⟩ := Option.isSome_iff_exists.1 h
  obtain ⟨s, hs, hderive⟩ := derive_of_get? hbuild hget
  refine ⟨s, hs, mem_of_mem_derive_special hderive hc ?_⟩
  rwa [mem_normalizeKey_special_iff hc]

end SyllableTable

/-! ## Patterns of heads -/

namespace Query

variable {table : SyllableTable} {syllables : List Text}

theorem compileHead_of_contains
    (hbuild : SyllableTable.build .standard .standard syllables = .ok table) {query : Text} {n : Nat}
    (h : table.contains (query.take n) = true) :
    ∃ compiled, (Compiler.ofTable table).compileHead query n = .ok compiled := by
  obtain ⟨toned, hget⟩ := Option.isSome_iff_exists.1 h
  obtain ⟨s, -, hderive⟩ := SyllableTable.derive_of_get? hbuild hget
  obtain ⟨pattern, hpattern⟩ := exists_syllablePattern hderive (some (query.take n))
  have hfind : table.find (query.take n) = .ok toned := by rw [SyllableTable.find, hget]
  simp only [Compiler.compileHead, Compiler.ofTable, hfind, hpattern, bind, Except.bind]
  split_ifs <;> exact ⟨_, rfl⟩

theorem compileHead_of_not_contains {c : Compiler} {query : Text} {n : Nat}
    (h : c.table.contains (query.take n) = false) :
    c.compileHead query n = .error (.missingKey (normalizeKey (query.take n))) := by
  have hget : c.table.get? (query.take n) = none := by simpa [SyllableTable.contains] using h
  have hfind : c.table.find (query.take n) = .error (.missingKey (normalizeKey (query.take n))) := by
    rw [SyllableTable.find, hget]
  simp only [Compiler.compileHead, hfind, bind, Except.bind]

/-- Where no syllable has a backslash, a head reads the same in the escaped query. -/
theorem contains_take_of_isLongestBeginning
    (hbuild : SyllableTable.build .standard .standard syllables = .ok table)
    (hplain : ∀ s ∈ syllables, '\\' ∉ s) {query : Text} {n : Nat}
    (h : IsLongestBeginning table (escape query) n) : table.contains (query.take n) = true := by
  have hbackslash : '\\' ∉ (escape query).take n := by
    intro hm
    obtain ⟨s, hs, hmem⟩ := SyllableTable.exists_mem_of_contains_special hbuild h.contains
      (by decide : '\\' ∈ specials) hm
    exact hplain s hs hmem
  rw [← (take_escape_eq h.lt.le hbackslash).2]
  exact h.contains

/-- A pinyin query has no pattern just if the head of its escaped form is not one of its own. -/
theorem compile_eq_error_iff
    (hbuild : SyllableTable.build .standard .standard syllables = .ok table) (query : Text)
    (error : Error) :
    (Compiler.ofTable table).compile query .pinyin = .error error ↔
      ∃ n, IsLongestBeginning table (escape query) n ∧ table.contains (query.take n) = false ∧
        error = .missingKey (normalizeKey (query.take n)) := by
  simp only [← headLength_eq_some_iff]
  cases hhead : headLength table (escape query) with
  | none =>
    rw [compile_of_headLength_eq_none (c := .ofTable table) hhead]
    constructor
    · intro h
      cases h
    · rintro ⟨n, hn, -⟩
      cases hn
  | some n =>
    rw [compile_of_headLength_eq_some (c := .ofTable table) hhead]
    simp only [Option.some.injEq, exists_eq_left']
    cases hcontains : table.contains (query.take n) with
    | true =>
      obtain ⟨compiled, hcompiled⟩ := compileHead_of_contains hbuild hcontains
      rw [hcompiled]
      constructor
      · intro h
        cases h
      · rintro ⟨h, -⟩
        cases h
    | false =>
      have herror := compileHead_of_not_contains (c := .ofTable table) hcontains
      rw [herror]
      simp only [Except.map, Except.error.injEq, true_and]
      exact eq_comm

end Query

namespace Engine

variable {settings : Settings} {syllables : List Text} {e : Engine}

/-- When a compilation fails. Over any syllables that an engine can be built from, it does so only
for a pinyin query whose escaped form begins with a syllable that the query itself does not begin
with. Over syllables without a backslash no compilation fails. -/
theorem compile_fails_iff (hbuild : Engine.build settings .standard (some syllables) = .ok e)
    (query : Text) (strategy : Option Strategy) :
    (∀ error, e.compile query strategy = .error error ↔
      strategy ≠ some .regexp ∧ ∃ n, Query.IsLongestBeginning e.table (escape query) n ∧
        e.table.contains (query.take n) = false ∧
        error = .missingKey (normalizeKey (query.take n))) ∧
    ((∀ s ∈ syllables, '\\' ∉ s) → ∃ pattern, e.compile query strategy = .ok pattern) := by
  obtain ⟨table, htable, hcompiler⟩ := exists_table_of_build hbuild
  have hsame : e.table = table := congrArg Compiler.table hcompiler
  have hpinyin (error : Error) : e.compile query strategy = .error error ↔
      strategy ≠ some .regexp ∧ ∃ n, Query.IsLongestBeginning e.table (escape query) n ∧
        e.table.contains (query.take n) = false ∧
        error = .missingKey (normalizeKey (query.take n)) := by
    rw [hsame, ← Query.compile_eq_error_iff htable, Engine.compile, hcompiler]
    rcases strategy with - | (- | -)
    · simp
    · simp
    · simp [Compiler.compile, Compiler.compileRoute, Except.map]
  refine ⟨hpinyin, fun hplain => ?_⟩
  cases hcompile : e.compile query strategy with
  | ok pattern => exact ⟨pattern, rfl⟩
  | error error =>
    obtain ⟨-, n, hn, hcontains, -⟩ := (hpinyin error).1 hcompile
    rw [hsame] at hn hcontains
    have hfound := Query.contains_take_of_isLongestBeginning htable hplain hn
    simp [hcontains] at hfound

/-- Over the syllable `ā\` the escaped form of `a b` begins with its key, the query does not. -/
theorem compile_fails_iff_backslash :
    let e : Engine := ⟨.ofTable ⟨[(['a', '\\'], ['ā', '\\'])]⟩, .custom, ⟨true, .pinyin⟩⟩
    Engine.build ⟨true, .pinyin⟩ .standard (some [['ā', '\\']]) = .ok e ∧
      e.compile ['a', ' ', 'b'] none = .error (.missingKey ['a', ' ']) := by
  intro e
  have hbuild : Engine.build ⟨true, .pinyin⟩ .standard (some [['ā', '\\']]) = .ok e := by decide
  refine ⟨hbuild, ((compile_fails_iff hbuild ['a', ' ', 'b'] none).1 _).2 ⟨by decide, 2, ?_⟩⟩
  refine ⟨⟨by decide, by decide, by decide, ?_⟩, by decide, by decide⟩
  intro m hm hlt
  obtain rfl : m = 3 := by
    have hlength : (escape ['a', ' ', 'b']).length = 4 := by decide
    omega
  decide

end Engine

end TonelessPinyin

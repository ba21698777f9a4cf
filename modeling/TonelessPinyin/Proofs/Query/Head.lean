import TonelessPinyin.Engine
import TonelessPinyin.Proofs.Query.Substitution
import TonelessPinyin.Proofs.Syllable.Table

/-!
The head of a query over a built table, and the pieces of the whole compiled query.
-/
namespace TonelessPinyin

open Text Pattern Syllable

/-- The compiler of the standard vowel classes over a table. -/
def Compiler.ofTable (table : SyllableTable) : Compiler := ⟨table, .standard, .exact, .relaxed⟩

theorem Engine.exists_table_of_build {settings : Settings} {syllables : List Text} {e : Engine}
    (hbuild : Engine.build settings .standard (some syllables) = .ok e) :
    ∃ table, SyllableTable.build .standard .standard syllables = .ok table ∧
      e.compiler = .ofTable table := by
  rw [Engine.build, Engine.draft] at hbuild
  cases hdraft : SyllableTable.draft .standard .standard syllables with
  | mk d error =>
    rw [hdraft] at hbuild
    cases error with
    | some error => cases hbuild
    | none =>
      refine ⟨.ofEntries d.entries, ?_, ?_⟩
      · rw [SyllableTable.build, hdraft]
      · rw [← Except.ok.inj hbuild]
        rfl

theorem exists_of_bind_eq_ok {ε α β : Type} {x : Except ε α} {f : α → Except ε β} {b : β}
    (h : x >>= f = .ok b) : ∃ a, x = .ok a ∧ f a = .ok b := by
  cases x with
  | error e => cases h
  | ok a => exact ⟨a, rfl, h⟩

namespace Query

/-! ## The longest syllable -/

theorem longestSyllable_eq_some {table : SyllableTable} {t : Text} {n p : Nat}
    (h : longestSyllable table t n = some p) :
    2 ≤ p ∧ p ≤ n ∧ table.contains (t.take p) = true ∧
      ∀ m, p < m → m ≤ n → table.contains (t.take m) = false := by
  induction n using longestSyllable.induct table t with
  | case1 => simp [longestSyllable] at h
  | case2 => simp [longestSyllable] at h
  | case3 n hc =>
    rw [longestSyllable, if_pos hc] at h
    obtain rfl := Option.some.inj h
    exact ⟨by omega, le_rfl, hc, fun m hm hn => by omega⟩
  | case4 n hc ih =>
    rw [longestSyllable, if_neg hc] at h
    obtain ⟨htwo, hle, hcontains, hlonger⟩ := ih h
    refine ⟨htwo, by omega, hcontains, ?_⟩
    intro m hm hn
    rcases Nat.lt_or_ge m (n + 2) with hlt | hge
    · exact hlonger m hm (by omega)
    · obtain rfl : m = n + 2 := by omega
      simpa using hc

theorem longestSyllable_eq_none {table : SyllableTable} {t : Text} {n : Nat}
    (h : longestSyllable table t n = none) {m : Nat} (htwo : 2 ≤ m) (hm : m ≤ n) :
    table.contains (t.take m) = false := by
  induction n using longestSyllable.induct table t with
  | case1 => omega
  | case2 => omega
  | case3 n hc => simp [longestSyllable, hc] at h
  | case4 n hc ih =>
    rw [longestSyllable, if_neg hc] at h
    rcases Nat.lt_or_ge m (n + 2) with hlt | hge
    · exact ih h (by omega)
    · obtain rfl : m = n + 2 := by omega
      simpa using hc

theorem longestSyllable_congr {table table' : SyllableTable} {t t' : Text}
    (h : ∀ n, table.contains (t.take n) = table'.contains (t'.take n)) (n : Nat) :
    longestSyllable table t n = longestSyllable table' t' n := by
  induction n using longestSyllable.induct table t with
  | case1 => rfl
  | case2 => rfl
  | case3 n hc => rw [longestSyllable, longestSyllable, if_pos hc, if_pos (h _ ▸ hc)]
  | case4 n hc ih => rw [longestSyllable, longestSyllable, if_neg hc, if_neg (h _ ▸ hc), ih]

/-- A length of at least two, less than that of the whole text, is the longest of a beginning that
the table has. -/
structure IsLongestBeginning (table : SyllableTable) (t : Text) (n : Nat) : Prop where
  two_le : 2 ≤ n
  lt : n < t.length
  contains : table.contains (t.take n) = true
  longest : ∀ m, n < m → m < t.length → table.contains (t.take m) = false

theorem headLength_eq_some_iff {table : SyllableTable} {t : Text} {n : Nat} :
    headLength table t = some n ↔ IsLongestBeginning table t n := by
  constructor
  · intro h
    obtain ⟨htwo, hle, hcontains, hlonger⟩ := longestSyllable_eq_some h
    exact ⟨htwo, by omega, hcontains, fun m hm hlt => hlonger m hm (by omega)⟩
  · intro h
    have hlt := h.lt
    cases hhead : headLength table t with
    | none =>
      have hnone := longestSyllable_eq_none hhead h.two_le (by omega)
      simp [h.contains] at hnone
    | some m =>
      obtain ⟨-, hle, hcontains, hlonger⟩ := longestSyllable_eq_some hhead
      -- neither of two longest beginnings is longer than the other
      rcases Nat.lt_trichotomy m n with hmn | rfl | hnm
      · have hnot := hlonger n hmn (by omega)
        simp [h.contains] at hnot
      · rfl
      · simp [h.longest m hnm (by omega)] at hcontains

theorem headLength_of_length_le_one {table : SyllableTable} {t : Text} (h : t.length ≤ 1) :
    headLength table t = none := by
  rw [headLength, Nat.sub_eq_zero_of_le h]
  rfl

theorem compileRoute_of_none {c : Compiler} (hhead : headLength c.table (escape query) = none) :
    ∃ route ∈ [Compiler.Route.short, .noSyllable],
      c.compileRoute query .pinyin = .ok ⟨substitute c.exact blanks query, route⟩ := by
  rw [Compiler.compileRoute, Compiler.compilePinyin, hhead]
  split_ifs
  · exact ⟨.short, by simp, rfl⟩
  · exact ⟨.noSyllable, by simp, rfl⟩

theorem compileRoute_of_some {c : Compiler} {n : Nat}
    (hhead : headLength c.table (escape query) = some n) :
    c.compileRoute query .pinyin = c.compileHead query n := by
  have hlong : ¬(escape query).length ≤ 1 := by
    intro hshort
    rw [headLength_of_length_le_one hshort] at hhead
    cases hhead
  rw [Compiler.compileRoute, Compiler.compilePinyin, if_neg hlong, hhead]

/-- Without a head the whole query is substituted, with tones. -/
theorem compile_of_headLength_eq_none {c : Compiler} {query : Text}
    (h : headLength c.table (escape query) = none) :
    c.compile query .pinyin = .ok (substitute c.exact blanks query) := by
  obtain ⟨route, -, hroute⟩ := compileRoute_of_none h
  rw [Compiler.compile, hroute]
  rfl

theorem compile_of_headLength_eq_some {c : Compiler} {query : Text} {n : Nat}
    (h : headLength c.table (escape query) = some n) :
    c.compile query .pinyin = (c.compileHead query n).map (·.pattern) := by
  rw [Compiler.compile, compileRoute_of_some h]

/-- The pattern of a syllable is a vowel's fragment, in the case of some text, with escaped letters
around it. -/
theorem exists_of_syllablePattern {classes : VowelClasses} {model : ToneModel}
    {toned pattern : Text} {surface : Option Text}
    (h : syllablePattern classes model toned surface = .ok pattern) :
    ∃ base fragment before written after, classes.find base = .ok fragment ∧
      pattern = escape before ++ inCaseOf written fragment ++ escape after := by
  rw [syllablePattern] at h
  cases hsearch : model.search toned with
  | none => simp [hsearch] at h
  | some span =>
    simp only [hsearch] at h
    obtain ⟨cluster, -, h⟩ := exists_of_bind_eq_ok h
    obtain ⟨fragment, hfragment, h⟩ := exists_of_bind_eq_ok h
    -- without a surface of this length the fragment stays as it is, as for an empty text
    cases surface with
    | none => exact ⟨_, fragment, _, [], _, hfragment, (Except.ok.inj h).symm⟩
    | some written =>
      dsimp only at h
      split_ifs at h
      · exact ⟨_, fragment, _, span.of written, _, hfragment, (Except.ok.inj h).symm⟩
      · exact ⟨_, fragment, _, [], _, hfragment, (Except.ok.inj h).symm⟩

/-- The pattern of a query with a head is that of its syllable, alone or with the rest. -/
theorem exists_of_compileHead {c : Compiler} {query : Text} {n : Nat}
    {compiled : Compiler.Compiled} (h : c.compileHead query n = .ok compiled) :
    ∃ toned head, syllablePattern c.exact c.model toned (some (query.take n)) = .ok head ∧
      (compiled.pattern = head ∨
        compiled.pattern = Compiler.withTail head (substitute c.relaxed blanks (query.drop n))) := by
  rw [Compiler.compileHead] at h
  obtain ⟨toned, -, h⟩ := exists_of_bind_eq_ok h
  obtain ⟨head, hhead, h⟩ := exists_of_bind_eq_ok h
  refine ⟨toned, head, hhead, ?_⟩
  split_ifs at h
  · obtain rfl := Except.ok.inj h
    exact .inl rfl
  · obtain rfl := Except.ok.inj h
    exact .inr rfl

/-! ## Escaped queries -/

theorem escape_eq_sourceOf (t : Text) : escape t = sourceOf (t.map .letter) := by
  rw [escape, sourceOf, List.flatMap_map]
  rfl

theorem escape_eq_self {t : Text} (h : ∀ c ∈ t, c ∉ specials) : escape t = t := by
  induction t with
  | nil => rfl
  | cons c t ih =>
    obtain ⟨hc, ht⟩ := List.forall_mem_cons.1 h
    rw [escape, List.flatMap_cons, escapeLetter, if_neg hc]
    exact congrArg (c :: ·) (ih ht)

/-- A beginning without escapes is a beginning of the text itself. -/
theorem take_escape_eq {t : Text} {n : Nat} (hn : n ≤ (escape t).length)
    (h : '\\' ∉ (escape t).take n) : n ≤ t.length ∧ (escape t).take n = t.take n := by
  induction t generalizing n with
  | nil => simpa [escape] using hn
  | cons c t ih =>
    have hcons : escape (c :: t) = escapeLetter c ++ escape t := rfl
    rw [hcons] at hn h ⊢
    cases n with
    | zero => simp
    | succ n =>
      have hc : c ∉ specials := by
        intro hc
        simp [escapeLetter, hc] at h
      rw [escapeLetter, if_neg hc] at hn h ⊢
      simp only [List.cons_append, List.nil_append, List.take_succ_cons, List.mem_cons, not_or,
        List.length_cons, List.cons.injEq, true_and, Nat.add_le_add_iff_right] at hn h ⊢
      exact ih hn h.2

theorem length_le_length_escape (t : Text) : t.length ≤ (escape t).length := by
  induction t with
  | nil => exact le_rfl
  | cons c t ih =>
    have hletter : 1 ≤ (escapeLetter c).length := by
      rw [escapeLetter]
      split_ifs <;> simp
    change t.length + 1 ≤ (escapeLetter c ++ escape t).length
    rw [List.length_append]
    omega

/-- A beginning without special characters is a beginning of the escaped text, too. -/
theorem take_escape_of_plain {t : Text} {n : Nat} (h : ∀ c ∈ t.take n, c ∉ specials) :
    (escape t).take n = t.take n := by
  have hsplit : escape t = t.take n ++ escape (t.drop n) := by
    conv_lhs => rw [← List.take_append_drop n t]
    rw [escape_append, escape_eq_self h]
  rw [hsplit]
  rcases Nat.le_total n t.length with hn | hn
  · exact List.take_left' (List.length_take_of_le hn)
  · rw [List.drop_eq_nil_of_le hn]
    change (t.take n ++ []).take n = t.take n
    rw [List.append_nil, List.take_take, Nat.min_self]

/-! ## Heads over built tables -/

variable {table : SyllableTable} {syllables : List Text} {query : Text}

theorem not_special_of_isSpelled_lower {t : Text} (h : IsSpelled (lower t)) :
    ∀ c ∈ t, c ∉ specials := by
  have hfixed : ∀ c ∈ specials, lowerLetter c = c := by decide
  intro c hc hspecial
  have hmem := h.lowerLetter_mem hc
  rw [hfixed c hspecial] at hmem
  exact not_special_of_mem_letters c hmem hspecial

theorem not_special_of_contains (h : table.IsBuiltFrom syllables) {t : Text}
    (ht : table.contains t = true) : ∀ c ∈ t, c ∉ specials := by
  obtain ⟨toned, hget⟩ := Option.isSome_iff_exists.1 ht
  exact not_special_of_isSpelled_lower (h.isSpelled_of_get? hget).2

/-- The table has a beginning of the escaped query just if it has that of the query. -/
theorem contains_take_escape (h : table.IsBuiltFrom syllables) {n : Nat}
    (hn : n ≤ (escape query).length) :
    table.contains ((escape query).take n) = table.contains (query.take n) := by
  rw [Bool.eq_iff_iff]
  constructor
  · intro hcontains
    have hplain := not_special_of_contains h hcontains
    have hbackslash : '\\' ∉ (escape query).take n := fun hm => hplain _ hm (by decide)
    rwa [(take_escape_eq hn hbackslash).2] at hcontains
  · intro hcontains
    rwa [take_escape_of_plain (not_special_of_contains h hcontains)]

/-- Only a query without special characters is a key as a whole, and it does not grow when it is
escaped. -/
theorem lt_length_of_contains_take (h : table.IsBuiltFrom syllables) {n : Nat}
    (hn : n < (escape query).length) (hcontains : table.contains (query.take n) = true) :
    n < query.length := by
  by_contra hle
  rw [List.take_of_length_le (Nat.le_of_not_lt hle)] at hcontains
  rw [escape_eq_self (not_special_of_contains h hcontains)] at hn
  exact hle hn

theorem isLongestBeginning_escape_iff (h : table.IsBuiltFrom syllables) {n : Nat} :
    IsLongestBeginning table (escape query) n ↔ IsLongestBeginning table query n := by
  have hlength := length_le_length_escape query
  constructor
  · intro hn
    have hcontains : table.contains (query.take n) = true := by
      rw [← contains_take_escape h hn.lt.le]
      exact hn.contains
    refine ⟨hn.two_le, lt_length_of_contains_take h hn.lt hcontains, hcontains, ?_⟩
    intro m hm hlt
    rw [← contains_take_escape h (by omega)]
    exact hn.longest m hm (by omega)
  · intro hn
    have hlt : n < (escape query).length := Nat.lt_of_lt_of_le hn.lt hlength
    refine ⟨hn.two_le, hlt, ?_, ?_⟩
    · rw [contains_take_escape h hlt.le]
      exact hn.contains
    · intro m hm hlt
      rw [contains_take_escape h hlt.le, Bool.eq_false_iff]
      intro hcontains
      have hlonger := hn.longest m hm (lt_length_of_contains_take h hlt hcontains)
      rw [hcontains] at hlonger
      cases hlonger

/-- The head of a query is its longest beginning. -/
theorem headLength_escape_eq_some_iff (h : table.IsBuiltFrom syllables) {n : Nat} :
    headLength table (escape query) = some n ↔ IsLongestBeginning table query n := by
  rw [headLength_eq_some_iff, isLongestBeginning_escape_iff h]

/-- The query goes beyond its head, which is not less than two characters long. -/
structure IsHead (table : SyllableTable) (query : Text) (n : Nat) (toned : Text) : Prop where
  two_le : 2 ≤ n
  lt : n < query.length
  get : table.get? (query.take n) = some toned

theorem headLength_eq_some (h : table.IsBuiltFrom syllables) {query : Text} {n : Nat}
    (hn : headLength table (escape query) = some n) :
    ∃ toned, IsHead table query n toned := by
  have hlongest := (headLength_escape_eq_some_iff h).1 hn
  obtain ⟨toned, hget⟩ := Option.isSome_iff_exists.1 hlongest.contains
  exact ⟨toned, hlongest.two_le, hlongest.lt, hget⟩

/-! ## Pieces of heads -/

/-- The pieces of a syllable in the case in which it is written. -/
def headPieces (toned surface : Text) : List Piece :=
  match aroundTone toned with
  | none => []
  | some (before, cluster, after) =>
    let rest := surface.drop before.length
    (List.zipWith inCaseOfLetter (surface.take before.length) before).map .letter ++
      vowelPieces .required (vowelOf cluster) (rest.take cluster.length) ++
      (List.zipWith inCaseOfLetter (rest.drop cluster.length) after).map .letter

theorem syllablePattern_eq_sourceOf {toned surface before cluster after base : Text}
    (h : CarriesTone toned before cluster after base) (hlength : surface.length = toned.length) :
    syllablePattern .exact .standard toned (some surface) =
      .ok (sourceOf (headPieces toned surface)) := by
  obtain ⟨c, hfind, hbase⟩ := h.find
  have hfragment := Tones.required.find_classes h.spells.plain.1
  rw [h.spells.eq_vowelOf] at hbase hfragment
  have hspan : (⟨before.length, before.length + cluster.length⟩ : Span).of surface =
      (surface.drop before.length).take cluster.length := by
    rw [Span.of, slice, List.drop_take, Nat.add_sub_cancel_left]
  have hexact : VowelClasses.exact = Tones.required.classes := rfl
  simp only [syllablePattern, h.search, span_of_split h.split, hfind, hbase, hexact, hfragment,
    bind, Except.bind, hlength, if_true, headPieces, h.aroundTone_eq, sourceOf_append,
    ← escape_eq_sourceOf, List.take_zipWith, List.drop_zipWith, take_of_split h.split,
    drop_of_split h.split, hspan, inCaseOf_eq_sourceOf, List.drop_drop]
  rfl

/-- A head is followed by blanks and the rest of the query. -/
theorem compileHead_of_isHead (h : table.IsBuiltFrom syllables) {n : Nat} {toned : Text}
    (hn : IsHead table query n toned) :
    ∃ head, syllablePattern .exact .standard toned (some (query.take n)) = .ok head ∧
      (Compiler.ofTable table).compileHead query n =
        .ok ⟨Compiler.withTail head (substitute .relaxed blanks (query.drop n)), .head toned⟩ := by
  obtain ⟨-, -, -, before, cluster, after, base, hcarries, -⟩ := h.lookup hn.get
  have hpattern := syllablePattern_eq_sourceOf hcarries (h.length_eq_of_get? hn.get)
  have hfind : table.find (query.take n) = .ok toned := by rw [SyllableTable.find, hn.get]
  refine ⟨_, hpattern, ?_⟩
  simp only [Compiler.ofTable, Compiler.compileHead, hfind, bind, Except.bind, hpattern,
    if_neg (Nat.not_le.2 hn.lt)]
  rfl

/-! ## Pieces of queries -/

/-- The pieces with any blanks before them. -/
def afterGap (ps : List Piece) : List Piece := if ps.head? = some .blanks then ps else .blanks :: ps

theorem isPrefixOf_sourceOf (ps : List Piece) :
    blanks.isPrefixOf (sourceOf ps) = (ps.head? == some .blanks) := by
  cases ps with
  | nil => rfl
  | cons p ps =>
    cases p with
    | letter c =>
      have hne : (Piece.letter c == Piece.blanks) = false := by simp
      -- an escaped letter begins like the blanks' pattern, but no special letter is an s
      by_cases hc : c ∈ specials
      · have hs : ('s' == c) = false := by
          rw [beq_eq_false_iff_ne]
          rintro rfl
          revert hc
          decide
        simp [sourceOf, Piece.source, escapeLetter, hc, blanks, List.isPrefixOf, hs, hne]
      · have hbackslash : ('\\' == c) = false := by
          rw [beq_eq_false_iff_ne]
          rintro rfl
          exact hc (by decide)
        simp [sourceOf, Piece.source, escapeLetter, hc, blanks, List.isPrefixOf, hbackslash, hne]
    | set letters => simp [sourceOf, Piece.source, VowelClasses.set, blanks, List.isPrefixOf]
    | blanks => simp [sourceOf, Piece.source, blanks, List.isPrefixOf]

theorem withTail_sourceOf (head tail : List Piece) :
    Compiler.withTail (sourceOf head) (sourceOf tail) = sourceOf (head ++ afterGap tail) := by
  rw [Compiler.withTail, isPrefixOf_sourceOf, afterGap, sourceOf_append]
  by_cases h : tail.head? = some .blanks <;> simp [h, sourceOf, Piece.source]

/-- The pieces of a compiled query. -/
def queryPieces (table : SyllableTable) (query : Text) : List Piece :=
  match headLength table (escape query) with
  | none => piecesOf .required query
  | some n =>
    headPieces ((table.get? (query.take n)).getD []) (query.take n) ++
      afterGap (piecesOf .optional (query.drop n))

/-- Over a built table every query has a pattern, which is spelled by its pieces. -/
theorem compile_eq_sourceOf (h : table.IsBuiltFrom syllables) (query : Text) :
    (Compiler.ofTable table).compile query .pinyin = .ok (sourceOf (queryPieces table query)) := by
  rw [queryPieces]
  cases hhead : headLength table (escape query) with
  | none =>
    rw [compile_of_headLength_eq_none hhead]
    exact congrArg Except.ok (substitute_eq_sourceOf .required query)
  | some n =>
    obtain ⟨toned, hn⟩ := headLength_eq_some h hhead
    obtain ⟨head, hpattern, hcompile⟩ := compileHead_of_isHead h hn
    obtain ⟨-, -, -, before, cluster, after, base, hcarries, -⟩ := h.lookup hn.get
    rw [syllablePattern_eq_sourceOf hcarries (h.length_eq_of_get? hn.get)] at hpattern
    obtain rfl := Except.ok.inj hpattern
    rw [compile_of_headLength_eq_some hhead, hcompile]
    simp only [hn.get, Option.getD_some, ← withTail_sourceOf,
      ← substitute_eq_sourceOf .optional (query.drop n)]
    rfl

end Query

end TonelessPinyin

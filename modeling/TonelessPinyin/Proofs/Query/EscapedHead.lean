import TonelessPinyin.Proofs.Query.Head

/-!
Heads of escaped queries. A key of a built table has no special character, so an escaped query
begins with the same syllables as the query itself, and goes beyond them just as the query does.
-/
namespace TonelessPinyin

open Text Pattern Syllable

namespace Query

variable {table : SyllableTable} {syllables : List Text} {query : Text}

theorem headLength_escape_eq_none_iff (h : table.IsBuiltFrom syllables) :
    headLength table (escape query) = none ↔
      ∀ n, 2 ≤ n → n < query.length → table.contains (query.take n) = false := by
  have hlength := length_le_length_escape query
  constructor
  · intro hnone n htwo hlt
    rw [← contains_take_escape h (by omega)]
    exact longestSyllable_eq_none hnone htwo (by omega)
  · intro hall
    rw [Option.eq_none_iff_forall_ne_some]
    intro n hsome
    have hn := (headLength_escape_eq_some_iff h).1 hsome
    have hnone := hall n hn.two_le hn.lt
    rw [hn.contains] at hnone
    cases hnone

/-! ## What is compiled -/

theorem withTail_eq (head tail : Text) :
    Compiler.withTail head tail =
      head ++ (if blanks <+: tail then [] else blanks) ++ tail := by
  simp only [Compiler.withTail, List.isPrefixOf_iff_prefix]

end Query

namespace Compiler

open Query

/-- Although the head is looked for in the escaped query, it is the longest syllable that the query
itself begins with and goes beyond, so no head stands alone. The pattern is that of the head, blanks
unless the rest begins with them, and the relaxed rest; without a head it is the exact pattern of
the whole query. -/
theorem compile_at_longest_beginning {table : SyllableTable} {syllables : List Text}
    (h : table.IsBuiltFrom syllables) (query : Text) :
    (∀ n, headLength table (escape query) = some n ↔ IsLongestBeginning table query n) ∧
      (∀ compiled toned, (ofTable table).compileRoute query .pinyin = .ok compiled →
        compiled.route ≠ .headAlone toned) ∧
      match headLength table (escape query) with
      | none =>
        (∀ n, 2 ≤ n → n < query.length → table.contains (query.take n) = false) ∧
          (ofTable table).compile query .pinyin = .ok (substitute .exact blanks query)
      | some n =>
        (escape query).take n = query.take n ∧
          ∃ toned head, table.find (query.take n) = .ok toned ∧
            syllablePattern .exact .standard toned (some (query.take n)) = .ok head ∧
            let tail := substitute .relaxed blanks (query.drop n)
            (ofTable table).compile query .pinyin =
              .ok (head ++ (if blanks <+: tail then [] else blanks) ++ tail) := by
  refine ⟨fun n => headLength_escape_eq_some_iff h, ?_⟩
  cases hhead : headLength table (escape query) with
  | none =>
    refine ⟨?_, (headLength_escape_eq_none_iff h).1 hhead,
      compile_of_headLength_eq_none (c := ofTable table) hhead⟩
    intro compiled toned hcompiled
    obtain ⟨route, hroute, hcompile⟩ := compileRoute_of_none (c := ofTable table) hhead
    obtain rfl := Except.ok.inj (hcompile.symm.trans hcompiled)
    rintro rfl
    simp at hroute
  | some n =>
    have hn := (headLength_escape_eq_some_iff h).1 hhead
    obtain ⟨toned, hget⟩ := Option.isSome_iff_exists.1 hn.contains
    obtain ⟨head, hpattern, hcompile⟩ := compileHead_of_isHead h ⟨hn.two_le, hn.lt, hget⟩
    refine ⟨?_, take_escape_of_plain (not_special_of_contains h hn.contains), toned, head, ?_,
      hpattern, ?_⟩
    · intro compiled toned' hcompiled
      rw [compileRoute_of_some (c := ofTable table) hhead, hcompile] at hcompiled
      obtain rfl := Except.ok.inj hcompiled
      simp
    · rw [SyllableTable.find, hget]
    · rw [compile_of_headLength_eq_some (c := ofTable table) hhead, hcompile]
      exact congrArg Except.ok (withTail_eq head _)

/-- The escaped form of `Ma.a` is longer than the query, its head is the same. -/
theorem compile_at_longest_beginning_dot :
    let table : SyllableTable := ⟨[(['m', 'a'], ['m', 'ā'])]⟩
    let query := ['M', 'a', '.', 'a']
    table.IsBuiltFrom [['m', 'ā']] ∧ escape query = ['M', 'a', '\\', '.', 'a'] ∧
      headLength table (escape query) = some 2 ∧ IsLongestBeginning table query 2 ∧
      (ofTable table).compile query .pinyin = .ok ("M[āáǎà]\\s*\\.[aāáǎà]".toList) := by
  intro table query
  have hbuilt : table.IsBuiltFrom [['m', 'ā']] := ⟨by decide, by decide⟩
  have hhead : headLength table (escape query) = some 2 := by decide
  exact ⟨hbuilt, by decide, hhead, ((compile_at_longest_beginning hbuilt query).1 2).1 hhead,
    by decide⟩

end Compiler

end TonelessPinyin

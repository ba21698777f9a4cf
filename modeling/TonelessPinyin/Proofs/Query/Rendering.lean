import TonelessPinyin.Proofs.Query.Plain

/-!
When keys find the syllables that they stand for. A syllable by itself is found through a shorter
syllable or with all its tones; after a first syllable every syllable is found but where a toned u
comes before an e.
-/
namespace TonelessPinyin

open Text Pattern Syllable Query

def HasOneTone (t : Text) : Prop := t.countP isToned = 1

instance (t : Text) : Decidable (HasOneTone t) := inferInstanceAs (Decidable (_ = 1))

/-! ## Letters that fit without a tone -/

def untonedVowels : Text := ['a', 'e', 'i', 'o', 'u', 'v', 'ü']

/-- Every untoned vowel is a u or ü directly before a toned e. -/
def tonesEveryVowel : Text → Bool
  | [] => true
  | c :: t =>
    (!untonedVowels.contains c ||
      ((untonedForms 'u').contains c && t.head?.any fun d => (tonedForms 'e').contains d)) &&
      tonesEveryVowel t

/-- Somewhere a toned u or ü stands directly before an e. -/
def TonedUBeforeE (t : Text) : Prop :=
  ∃ c d, [c, d] <:+: t ∧ c ∈ tonedForms 'u' ∧ d ∈ Tones.optional.forms 'e'

theorem not_tonedUBeforeE_nil : ¬TonedUBeforeE [] := by
  rintro ⟨c, d, h, -⟩
  simp at h

theorem tonedUBeforeE_cons_iff (c : Char) (t : Text) :
    TonedUBeforeE (c :: t) ↔
      (c ∈ tonedForms 'u' ∧ ∃ d ∈ t.head?, d ∈ Tones.optional.forms 'e') ∨ TonedUBeforeE t := by
  have hbegins (a b : Char) : [a, b] <+: c :: t ↔ a = c ∧ b ∈ t.head? := by
    rw [List.cons_prefix_cons]
    cases t <;> simp [eq_comm]
  constructor
  · rintro ⟨a, b, hab, ha, hb⟩
    rcases List.infix_cons_iff.1 hab with hab | hab
    · obtain ⟨rfl, hhead⟩ := (hbegins a b).1 hab
      exact .inl ⟨ha, b, hhead, hb⟩
    · exact .inr ⟨a, b, hab, ha, hb⟩
  · rintro (⟨hc, d, hhead, hd⟩ | ⟨a, b, hab, ha, hb⟩)
    · exact ⟨c, d, ((hbegins c d).2 ⟨rfl, hhead⟩).isInfix, hc, hd⟩
    · exact ⟨a, b, List.infix_cons hab, ha, hb⟩

theorem fitsAlone_optional_iff : ∀ c ∈ Marking.standard.letters,
    ([plainLetter c] ∈ vowelKeys → c ∈ Tones.optional.forms (plainLetter c)) ↔ c ≠ 'v' := by
  decide

theorem fitsAlone_required_iff : ∀ c ∈ Marking.standard.letters,
    ([plainLetter c] ∈ vowelKeys → c ∈ Tones.required.forms (plainLetter c)) ↔
      c ∉ untonedVowels := by
  decide

/-- The letters that are plainly u. -/
theorem u_cases : ∀ c ∈ Marking.standard.letters, plainLetter c = 'u' →
    (c ∈ untonedForms 'u' ↔ c ≠ 'v' ∧ c ∉ tonedForms 'u') ∧
      (c ∉ untonedVowels ↔ isToned c = true) ∧ (c ∈ untonedForms 'u' → c ∈ untonedVowels) := by
  decide

theorem plainLetter_of_mem_tonedForms : ∀ c ∈ tonedForms 'u',
    plainLetter c = 'u' ∧ isToned c = true := by
  decide

theorem plainLetter_of_mem_untonedForms : ∀ c ∈ untonedForms 'u', plainLetter c = 'u' := by
  decide

theorem plainLetter_eq_e_iff : ∀ d ∈ Marking.standard.letters,
    plainLetter d = 'e' ↔ d ∈ Tones.optional.forms 'e' := by
  decide

/-- The letters that are plainly e. -/
theorem e_cases : ∀ d ∈ Tones.optional.forms 'e',
    (d ≠ 'v' ∧ d ∉ tonedForms 'u' ∧ d ∉ untonedForms 'u') ∧
      (d ∉ untonedVowels ↔ d ∈ tonedForms 'e') ∧ (d ∈ tonedForms 'e' ↔ isToned d = true) := by
  decide

/-- Without required tones all letters fit but v, and a toned u or ü that an e follows. -/
theorem fits_optional_iff {t : Text} (ht : IsSpelled t) :
    Fits .optional t ↔ 'v' ∉ t ∧ ¬TonedUBeforeE t := by
  induction t using Fits.induct with
  | case1 => simp [Fits, not_tonedUBeforeE_nil]
  | case2 c =>
    rw [Fits, FitsAlone, fitsAlone_optional_iff c (ht c (by simp)), tonedUBeforeE_cons_iff]
    simp [not_tonedUBeforeE_nil, eq_comm]
  | case3 c d t hue ih =>
    obtain ⟨hc, ht⟩ := List.forall_mem_cons.1 ht
    obtain ⟨hd, ht⟩ := List.forall_mem_cons.1 ht
    have he := (plainLetter_eq_e_iff d hd).1 hue.2
    obtain ⟨⟨hdv, hdu, -⟩, -⟩ := e_cases d he
    rw [Fits, if_pos hue, ih ht, (u_cases c hc hue.1).1, tonedUBeforeE_cons_iff,
      tonedUBeforeE_cons_iff]
    simp only [List.mem_cons, List.head?_cons, Option.mem_some_iff, exists_eq_left', he, hdu,
      and_true, false_and, false_or, not_or, hdv.symm]
    rw [ne_comm]
    exact and_and_and_comm
  | case4 c d t hue ih =>
    obtain ⟨hc, ht⟩ := List.forall_mem_cons.1 ht
    have hd := ht d List.mem_cons_self
    have hnot : ¬(c ∈ tonedForms 'u' ∧ d ∈ Tones.optional.forms 'e') := fun h =>
      hue ⟨(plainLetter_of_mem_tonedForms c h.1).1, (plainLetter_eq_e_iff d hd).2 h.2⟩
    rw [Fits, if_neg hue, FitsAlone, fitsAlone_optional_iff c hc, ih ht,
      tonedUBeforeE_cons_iff c]
    simp only [List.head?_cons, Option.mem_some_iff, exists_eq_left', hnot, false_or,
      List.mem_cons (a := 'v') (b := c), not_or]
    rw [ne_comm, and_assoc]

theorem tonesEveryVowel_cons_iff (c : Char) (t : Text) :
    tonesEveryVowel (c :: t) = true ↔
      (c ∈ untonedVowels → c ∈ untonedForms 'u' ∧ ∃ d ∈ t.head?, d ∈ tonedForms 'e') ∧
        tonesEveryVowel t = true := by
  cases t <;> simp [tonesEveryVowel, imp_iff_not_or]

/-- With required tones no untoned vowel fits but u or ü before a toned e. Two toned letters could
be an ǔ and an é, of which the first does not fit. -/
theorem fits_required_iff {t : Text} (ht : IsSpelled t) (hone : t.countP isToned ≤ 1) :
    Fits .required t ↔ tonesEveryVowel t = true := by
  induction t using Fits.induct with
  | case1 => simp [Fits, tonesEveryVowel]
  | case2 c =>
    rw [Fits, FitsAlone, fitsAlone_required_iff c (ht c (by simp)), tonesEveryVowel_cons_iff]
    simp [tonesEveryVowel]
  | case3 c d t hue ih =>
    obtain ⟨hc, ht⟩ := List.forall_mem_cons.1 ht
    obtain ⟨hd, ht⟩ := List.forall_mem_cons.1 ht
    obtain ⟨-, hctoned, hcvowel⟩ := u_cases c hc hue.1
    obtain ⟨⟨-, -, hdu⟩, hdvowel, hdtoned⟩ := e_cases d ((plainLetter_eq_e_iff d hd).1 hue.2)
    rw [List.countP_cons, List.countP_cons] at hone
    have hnotboth : ¬(isToned c = true ∧ isToned d = true) := by
      rintro ⟨hc, hd⟩
      rw [if_pos hc, if_pos hd] at hone
      omega
    have hrest := ih ht (by omega)
    rw [Fits, if_pos hue, hrest, tonesEveryVowel_cons_iff, tonesEveryVowel_cons_iff]
    simp only [List.head?_cons, Option.mem_some_iff, exists_eq_left', hdu, false_and, imp_false,
      Tones.forms]
    constructor
    · rintro ⟨⟨hcu, hde⟩, ht⟩
      exact ⟨fun _ => ⟨hcu, hde⟩, hdvowel.2 hde, ht⟩
    · rintro ⟨hcu, hdv, ht⟩
      have hde : d ∈ tonedForms 'e' := hdvowel.1 hdv
      -- an e with its tone leaves none for the u
      have hcv : c ∈ untonedVowels := by
        by_contra hcv
        exact hnotboth ⟨hctoned.1 hcv, hdtoned.1 hde⟩
      exact ⟨hcu hcv, ht⟩
  | case4 c d t hue ih =>
    obtain ⟨hc, ht⟩ := List.forall_mem_cons.1 ht
    have hd := ht d List.mem_cons_self
    rw [List.countP_cons] at hone
    have hnot : ¬(c ∈ untonedForms 'u' ∧ d ∈ tonedForms 'e') := by
      rintro ⟨hcu, hde⟩
      have he : d ∈ Tones.optional.forms 'e' := List.mem_append_right _ hde
      exact hue ⟨plainLetter_of_mem_untonedForms c hcu, (plainLetter_eq_e_iff d hd).2 he⟩
    rw [Fits, if_neg hue, FitsAlone, fitsAlone_required_iff c hc, ih ht (by omega),
      tonesEveryVowel_cons_iff c]
    simp only [List.head?_cons, Option.mem_some_iff, exists_eq_left', hnot]

/-! ## Syllables with one tone -/

/-- A cluster is a toned form of its own vowel. -/
theorem SpellsVowel.mem_oneOfEach {cluster base : Text} (h : SpellsVowel cluster base) :
    cluster ∈ oneOfEach (Tones.required.lettersOf (vowelOf cluster)) := by
  rcases h with ⟨c, hc, rfl, -⟩ | ⟨c, hc, rfl, -⟩
  · have hform : ∀ c ∈ Marking.standard.tonedLetters, c ∈ tonedForms (untoned c) := by
      decide
    exact .cons (hform c hc) .nil
  · have hform : ∀ c ∈ tonesOf 'e', c ∈ tonedForms 'e' := by decide
    exact .cons (by decide) (.cons (hform c hc) .nil)

/-- A toned form of a cluster's vowel is as long as the cluster and has a toned letter. -/
theorem SpellsVowel.of_mem_oneOfEach {cluster base w : Text} (h : SpellsVowel cluster base)
    (hw : w ∈ oneOfEach (Tones.required.lettersOf (vowelOf cluster))) :
    w.length = cluster.length ∧ ∃ c ∈ w, isToned c = true := by
  have htoned : ∀ v ∈ ['a', 'e', 'i', 'o', 'u', 'v'], ∀ c ∈ tonedForms v, isToned c = true := by
    decide
  have hvowel : ∀ c ∈ Marking.standard.tonedLetters, untoned c ∈ ['a', 'e', 'i', 'o', 'u', 'v'] := by
    decide
  rcases h with ⟨c, hc, rfl, -⟩ | ⟨c, hc, rfl, -⟩
  · cases hw with
    | @cons d _ w _ hd hrest =>
      cases hrest
      exact ⟨rfl, d, List.mem_singleton_self d, htoned _ (hvowel c hc) d hd⟩
  · cases hw with
    | cons hu hrest =>
      cases hrest with
      | @cons d _ w _ hd hrest =>
        cases hrest
        exact ⟨rfl, d, by simp, htoned 'e' (by decide) d hd⟩

namespace SyllableTable.IsBuiltFrom

variable {table : SyllableTable} {syllables : List Text} {key toned : Text}

/-- The key of a syllable with one toned letter is its plain letters. -/
theorem entry_eq (h : table.IsBuiltFrom syllables) (hone : ∀ s ∈ syllables, HasOneTone (lower s))
    (hget : table.entries.get? key = some toned) :
    toned ∈ syllables.map lower ∧ IsSpelled toned ∧ HasOneTone toned ∧ key = plainQuery toned := by
  obtain ⟨s, hs, hlower, before, cluster, after, base, hcarries, hkey⟩ :=
    h.entry (Entries.mem_of_get? hget)
  dsimp only at hlower hcarries hkey
  subst hlower
  refine ⟨List.mem_map_of_mem hs, h.spelled s hs, hone s hs, ?_⟩
  have hcount : (before ++ cluster ++ after).countP isToned = 1 := by
    rw [← hcarries.split]
    exact hone s hs
  have hcluster : 0 < cluster.countP isToned := List.countP_pos_iff.2 hcarries.spells.exists_toned
  rw [List.countP_append, List.countP_append] at hcount
  have huntoned {t : Text} (ht : t.countP isToned = 0) : t.map foldLetter = t.map plainLetter := by
    rw [List.countP_eq_zero] at ht
    apply List.map_congr_left
    intro c hc
    rw [plainLetter, untoned_of_not_isToned (by simpa using ht c hc)]
  rw [hkey, keyAround, huntoned (by omega), huntoned (by omega), plainQuery, hcarries.split,
    List.map_append, List.map_append]

/-- Keys written together are the plain letters of their syllables written together. -/
theorem flatMap_entries (h : table.IsBuiltFrom syllables)
    (hone : ∀ s ∈ syllables, HasOneTone (lower s)) {entries : List (Text × Text)}
    (hentries : ∀ p ∈ entries, table.entries.get? p.1 = some p.2) :
    IsSpelled (entries.flatMap (·.2)) ∧
      entries.flatMap (·.1) = plainQuery (entries.flatMap (·.2)) := by
  constructor
  · intro c hc
    obtain ⟨p, hp, hc⟩ := List.mem_flatMap.1 hc
    exact (h.entry_eq hone (hentries p hp)).2.1 c hc
  · rw [plainQuery, List.map_flatMap]
    apply List.flatMap_congr
    intro p hp
    exact (h.entry_eq hone (hentries p hp)).2.2.2

theorem v_notMem_flatMap_entries (h : table.IsBuiltFrom syllables)
    (hone : ∀ s ∈ syllables, HasOneTone (lower s)) (hv : ∀ s ∈ syllables, 'v' ∉ lower s)
    {entries : List (Text × Text)}
    (hentries : ∀ p ∈ entries, table.entries.get? p.1 = some p.2) :
    'v' ∉ entries.flatMap (·.2) := by
  intro hc
  obtain ⟨p, hp, hc⟩ := List.mem_flatMap.1 hc
  obtain ⟨s, hs, hlower⟩ := List.mem_map.1 (h.entry_eq hone (hentries p hp)).1
  exact hv s hs (hlower ▸ hc)

end SyllableTable.IsBuiltFrom

namespace Compiler

variable {table : SyllableTable} {syllables : List Text} {key toned : Text}

/-! ## A syllable by itself -/

/-- Which syllables are found by their own keys. A key that begins with no other key must have all
its tones. One that does must begin like that syllable but for the tone, and go on without a v. -/
def FindsItself (table : SyllableTable) (key toned : Text) : Prop :=
  match headLength table key with
  | none => tonesEveryVowel toned = true
  | some n =>
    ∃ before cluster after,
      (table.get? (key.take n)).bind aroundTone = some (before, cluster, after) ∧
        ∃ w ∈ oneOfEach (Tones.required.lettersOf (vowelOf cluster)), ∃ rest,
          toned = before ++ w ++ after ++ rest ∧ 'v' ∉ rest

/-- The rest after the head of a syllable with one tone fits, if it has no v. -/
theorem fits_rest_iff {rest w cluster base before after : Text} (hspells : SpellsVowel cluster base)
    (hw : w ∈ oneOfEach (Tones.required.lettersOf (vowelOf cluster)))
    (hspelled : IsSpelled (before ++ w ++ after ++ rest))
    (hone : HasOneTone (before ++ w ++ after ++ rest)) :
    Fits .optional rest ↔ 'v' ∉ rest := by
  have hpos : 0 < w.countP isToned := List.countP_pos_iff.2 (hspells.of_mem_oneOfEach hw).2
  rw [HasOneTone, List.countP_append, List.countP_append, List.countP_append] at hone
  have hnone : rest.countP isToned = 0 := by omega
  rw [fits_optional_iff (IsSpelled.append_iff.1 hspelled).2, and_iff_left]
  rintro ⟨c, d, hcd, hc, -⟩
  have hmem : c ∈ rest := hcd.subset List.mem_cons_self
  exact List.countP_eq_zero.1 hnone c hmem (plainLetter_of_mem_tonedForms c hc).2

/-- Over syllables with one tone each, which keys find their own syllables. -/
theorem finds_itself_iff (h : table.IsBuiltFrom syllables)
    (hone : ∀ s ∈ syllables, HasOneTone (lower s)) (hget : table.entries.get? key = some toned)
    (caseless : Bool) :
    ∃ found, (ofTable table).finds caseless key toned = .ok found ∧
      (found = true ↔ FindsItself table key toned) := by
  obtain ⟨-, hspelled, htone, rfl⟩ := h.entry_eq hone hget
  obtain ⟨found, hfinds, hiff⟩ := finds_plainQuery_iff h hspelled caseless
  refine ⟨found, hfinds, hiff.trans ?_⟩
  have hcasing := start_casing_ne_ascii caseless
  rw [FindsItself]
  cases hn : headLength table (plainQuery toned) with
  | none => rw [accepts_iff_of_none hcasing hspelled hn, fits_required_iff hspelled htone.le]
  | some n =>
    have hescape := escape_eq_of_isSpelled (isSpelled_plainQuery hspelled)
    obtain ⟨before, cluster, after, base, first, written, last, hw⟩ :=
      exists_isWrittenHead h (hescape.symm ▸ hn)
    have haround : (table.get? ((plainQuery toned).take n)).bind aroundTone =
        some (before, cluster, after) := by
      rw [hw.isHead.get, Option.bind_some, hw.carriesTone.aroundTone_eq]
    rw [accepts_iff_of_some hcasing hspelled hn hw]
    dsimp only
    rw [haround]
    constructor
    · rintro ⟨w, hform, rest, rfl, hrest⟩
      exact ⟨before, cluster, after, rfl, w, hform, rest, rfl,
        (fits_rest_iff hw.carriesTone.spells hform hspelled htone).1 hrest⟩
    · rintro ⟨_, _, _, ⟨⟩, w, hform, rest, rfl, hrest⟩
      exact ⟨w, hform, rest, rfl,
        (fits_rest_iff hw.carriesTone.spells hform hspelled htone).2 hrest⟩

/-- Over zhē and zhēn the key `zhen` finds zhēn, which begins like zhē. -/
theorem finds_itself_iff_zhen :
    FindsItself ⟨[(['z', 'h', 'e'], ['z', 'h', 'ē']), (['z', 'h', 'e', 'n'], ['z', 'h', 'ē', 'n'])]⟩
      ['z', 'h', 'e', 'n'] ['z', 'h', 'ē', 'n'] := by
  let table : SyllableTable :=
    ⟨[(['z', 'h', 'e'], ['z', 'h', 'ē']), (['z', 'h', 'e', 'n'], ['z', 'h', 'ē', 'n'])]⟩
  have htable : table.IsBuiltFrom [['z', 'h', 'ē'], ['z', 'h', 'ē', 'n']] :=
    ⟨by decide, by decide⟩
  have htrue : (ofTable table).finds true ['z', 'h', 'e', 'n'] ['z', 'h', 'ē', 'n'] = .ok true := by
    decide
  have hget : table.entries.get? ['z', 'h', 'e', 'n'] = some ['z', 'h', 'ē', 'n'] := by
    decide
  obtain ⟨found, hfinds, hiff⟩ := finds_itself_iff htable (by decide) hget true
  obtain rfl := Except.ok.inj (hfinds.symm.trans htrue)
  exact hiff.1 rfl

/-- Not every syllable is found by its own key: shuāng alone in a table must have a tone on its u. -/
theorem not_forall_finds_itself :
    ¬∀ (table : SyllableTable) (syllables : List Text) (key toned : Text),
      table.IsBuiltFrom syllables → (∀ s ∈ syllables, HasOneTone (lower s)) →
      table.entries.get? key = some toned →
      ∀ caseless, (ofTable table).finds caseless key toned = .ok true := by
  intro hall
  have htable : SyllableTable.IsBuiltFrom
      ⟨[(['s', 'h', 'u', 'a', 'n', 'g'], ['s', 'h', 'u', 'ā', 'n', 'g'])]⟩
      [['s', 'h', 'u', 'ā', 'n', 'g']] := ⟨by decide, by decide⟩
  have hfinds := hall _ _ ['s', 'h', 'u', 'a', 'n', 'g'] ['s', 'h', 'u', 'ā', 'n', 'g'] htable
    (by decide) (by decide) true
  revert hfinds
  decide

/-! ## Several syllables -/

/-- A query of several keys, of which the first is its head, finds their syllables written together,
unless a toned u or ü stands before an e after the first syllable. The two letters are read as one
vowel there, even where one syllable ends and another begins. -/
theorem finds_rendering_iff (h : table.IsBuiltFrom syllables)
    (hone : ∀ s ∈ syllables, HasOneTone (lower s)) (hv : ∀ s ∈ syllables, 'v' ∉ lower s)
    {first : Text × Text} {rest : List (Text × Text)}
    (hentries : ∀ p ∈ first :: rest, table.entries.get? p.1 = some p.2)
    (hhead : headLength table ((first :: rest).flatMap (·.1)) = some first.1.length)
    (caseless : Bool) :
    ∃ found, (ofTable table).finds caseless ((first :: rest).flatMap (·.1))
        ((first :: rest).flatMap (·.2)) = .ok found ∧
      (found = true ↔ ¬TonedUBeforeE (rest.flatMap (·.2))) := by
  obtain ⟨hspelled, hkeys⟩ := h.flatMap_entries hone hentries
  have hrest : 'v' ∉ rest.flatMap (·.2) :=
    h.v_notMem_flatMap_entries hone hv (List.forall_mem_cons.1 hentries).2
  have htake : (plainQuery ((first :: rest).flatMap (·.2))).take first.1.length = first.1 := by
    rw [← hkeys, List.flatMap_cons, List.take_left]
  rw [hkeys] at hhead ⊢
  obtain ⟨found, hfinds, hiff⟩ := finds_plainQuery_iff h hspelled caseless
  have hescape := escape_eq_of_isSpelled (isSpelled_plainQuery hspelled)
  obtain ⟨before, cluster, after, base, begun, written, last, hw⟩ :=
    exists_isWrittenHead h (hescape.symm ▸ hhead)
  -- the head of the query is the first key, and its syllable the first one
  have hfirst : before ++ cluster ++ after = first.2 := by
    have hget := h.get?_key (hentries first List.mem_cons_self)
    rw [← htake, hw.isHead.get] at hget
    exact Option.some.inj hget
  have hspells := hw.carriesTone.spells
  have hcasing := start_casing_ne_ascii caseless
  have hfits : Fits .optional (rest.flatMap (·.2)) ↔ ¬TonedUBeforeE (rest.flatMap (·.2)) := by
    rw [fits_optional_iff, and_iff_right hrest]
    exact fun c hc => hspelled c (List.mem_append_right first.2 hc)
  refine ⟨found, hfinds, hiff.trans ?_⟩
  rw [accepts_iff_of_some hcasing hspelled hhead hw, ← hfits, List.flatMap_cons, ← hfirst]
  constructor
  · rintro ⟨w, hform, tail, heq, htail⟩
    have hlength : (before ++ cluster ++ after).length = (before ++ w ++ after).length := by
      simp [(hspells.of_mem_oneOfEach hform).1]
    rwa [(List.append_inj heq hlength).2]
  · intro htail
    exact ⟨cluster, hspells.mem_oneOfEach, _, rfl, htail⟩

/-- The query `maluer` does not find mālǔér: its u and e are taken for one vowel. -/
theorem finds_rendering_iff_maluer :
    (ofTable ⟨[(['m', 'a'], ['m', 'ā']), (['l', 'u'], ['l', 'ǔ']), (['e', 'r'], ['é', 'r'])]⟩).finds
      true ['m', 'a', 'l', 'u', 'e', 'r'] ['m', 'ā', 'l', 'ǔ', 'é', 'r'] = .ok false := by
  let table : SyllableTable :=
    ⟨[(['m', 'a'], ['m', 'ā']), (['l', 'u'], ['l', 'ǔ']), (['e', 'r'], ['é', 'r'])]⟩
  have htable : table.IsBuiltFrom [['m', 'ā'], ['l', 'ǔ'], ['é', 'r']] :=
    ⟨by decide, by decide⟩
  have hentries : ∀ p ∈ [(['m', 'a'], ['m', 'ā']), (['l', 'u'], ['l', 'ǔ']), (['e', 'r'], ['é', 'r'])],
      table.entries.get? p.1 = some p.2 := by
    decide
  obtain ⟨found, hfinds, hiff⟩ := finds_rendering_iff htable (by decide)
    (by decide) hentries (by decide) true
  have hbefore : TonedUBeforeE ['l', 'ǔ', 'é', 'r'] :=
    ⟨'ǔ', 'é', ⟨['l'], ['r'], rfl⟩, by decide, by decide⟩
  have hfalse : found = false := by
    by_contra htrue
    exact hiff.1 (by simpa using htrue) hbefore
  exact hfalse ▸ hfinds

end Compiler

end TonelessPinyin

import Mathlib.Order.Bounds.Basic
import TonelessPinyin.Proofs.Pattern.WordChoice
import TonelessPinyin.Proofs.Tone.Search

/-!
Where a tone model finds something. A search ends at the first place where a cluster stands, with
the longest cluster that stands there, and fails if there is none. So it depends only on which
clusters the model has, not on the order in which they were given.
-/
namespace TonelessPinyin

open Text Pattern

variable {m : ToneModel} {t w : Text}

/-! ## Longer clusters first -/

theorem keys_ne_nil_of_mem_keyTexts (hw : w ∈ keyTexts m) : m.clusters.keys ≠ [] := by
  obtain ⟨key, hkey, -⟩ := hw
  exact List.ne_nil_of_mem hkey

theorem mem_keyTexts : w ∈ keyTexts m ↔ ∃ key ∈ m.clusters.keys, Agree key w :=
  exists_congr fun _ => and_congr_right fun _ => mem_languageOf_letters_iff

/-- Ways past longer clusters come first. -/
theorem pairwise_ways_recognizer (hkeys : m.clusters.keys ≠ []) (t : Text) (p : Place) :
    (m.recognizer.ways t.toArray p).Pairwise fun q r => r.pos ≤ q.pos := by
  have hword (key : Text) (q : Place)
      (hq : q ∈ (Node.word .unicode key).ways t.toArray p) : q.pos = p.pos + key.length := by
    obtain ⟨w, hw, -, rfl⟩ := (recognises_word .unicode key t p q).1 hq
    rw [Place.move_pos, (mem_languageOf_letters_iff.1 hw).length_eq]
  have hne : m.alternatives.map (Node.word .unicode) ≠ [] := by
    simpa using ToneModel.alternatives_ne_nil hkeys
  rw [ToneModel.recognizer, Node.ways_choice _ hne, List.flatMap_map, List.pairwise_flatMap]
  constructor
  · intro key _
    refine List.pairwise_of_forall_mem_list ?_
    intro q hq r hr
    rw [hword key q hq, hword key r hr]
  · refine (pairwise_sortLongest _).imp ?_
    intro key key' hlength q hq r hr
    rw [hword key q hq, hword key' r hr]
    omega

/-- No cluster that matches at a place is longer than the one that is found there. -/
theorem length_le_of_matchAt {i stop : Nat} (hm : m.recognizer.matchAt t.toArray i = some stop)
    (hw : w ∈ keyTexts m) (hwt : w <+: t.drop i) : i + w.length ≤ stop := by
  have hkeys := keys_ne_nil_of_mem_keyTexts hw
  have hway := (recognises_recognizer hkeys t ⟨i, []⟩ _).2 ⟨w, hw, hwt, rfl⟩
  have hsorted := pairwise_ways_recognizer hkeys t ⟨i, []⟩
  rw [Node.matchAt_eq, Option.map_eq_some_iff] at hm
  obtain ⟨first, hfirst, rfl⟩ := hm
  obtain ⟨rest, hrest⟩ := List.head?_eq_some_iff.1 hfirst
  rw [hrest] at hway hsorted
  rcases List.mem_cons.1 hway with rfl | hway
  · exact le_rfl
  · exact (List.pairwise_cons.1 hsorted).1 _ hway

namespace ToneModel

/-! ## Clusters in a text -/

/-- A cluster stands in the text at a position, in whatever case. -/
def OccursAt (m : ToneModel) (t : Text) (i : Nat) (key : Text) : Prop :=
  key ∈ m.clusters.keys ∧ i ≤ t.length ∧ Agree key (t.slice i (i + key.length))

theorem exists_prefix_iff {key : Text} {i : Nat} :
    (∃ w, Agree key w ∧ w <+: t.drop i) ↔ Agree key (t.slice i (i + key.length)) := by
  have hslice : t.slice i (i + key.length) = (t.drop i).take key.length := by
    rw [slice, List.drop_take, Nat.add_sub_cancel_left]
  rw [hslice]
  constructor
  · rintro ⟨w, hagree, hw⟩
    rw [hagree.length_eq, ← List.prefix_iff_eq_take.1 hw]
    exact hagree
  · intro hagree
    exact ⟨_, hagree, List.take_prefix _ _⟩

theorem exists_occursAt_iff {i : Nat} (hi : i ≤ t.length) :
    (∃ key, m.OccursAt t i key) ↔ ∃ w ∈ keyTexts m, w <+: t.drop i := by
  simp only [OccursAt, hi, true_and, ← exists_prefix_iff, mem_keyTexts]
  constructor
  · rintro ⟨key, hkey, w, hagree, hw⟩
    exact ⟨w, ⟨key, hkey, hagree⟩, hw⟩
  · rintro ⟨w, ⟨key, hkey, hagree⟩, hw⟩
    exact ⟨key, hkey, w, hagree, hw⟩

theorem matchAt_eq_none_iff (hkeys : m.clusters.keys ≠ []) {i : Nat} (hi : i ≤ t.length) :
    m.recognizer.matchAt t.toArray i = none ↔ ∀ key, ¬m.OccursAt t i key := by
  rw [← not_exists, exists_occursAt_iff hi,
    ← (recognises_recognizer hkeys).matchAt_isSome_iff, Option.not_isSome_iff_eq_none]

/-- Nothing is found just where no cluster occurs. -/
theorem search_eq_none_iff_forall (hkeys : m.clusters.keys ≠ []) :
    m.search t = none ↔ ∀ i key, ¬m.OccursAt t i key := by
  rw [ToneModel.search, Node.search_whole, Node.firstMatch_eq_none_iff]
  constructor
  · intro h i key hoccurs
    exact (matchAt_eq_none_iff hkeys hoccurs.2.1).1
      (h i (Nat.zero_le i) (by have := hoccurs.2.1; omega)) key hoccurs
  · intro h i _ hi
    exact (matchAt_eq_none_iff hkeys (by omega)).2 (h i)

/-! ## The first place and the longest cluster -/

/-- What is found begins where the first clusters do, and ends with the longest of them. -/
structure IsLeftmostLongest (m : ToneModel) (t : Text) (s : Span) : Prop where
  start : IsLeast {i | ∃ key, m.OccursAt t i key} s.start
  stop : IsGreatest {n | ∃ key, m.OccursAt t s.start key ∧ n = s.start + key.length} s.stop

theorem isLeftmostLongest_of_search (hkeys : m.clusters.keys ≠ []) {s : Span}
    (hs : m.search t = some s) : m.IsLeftmostLongest t s := by
  rw [ToneModel.search, Node.search_whole] at hs
  obtain ⟨-, hlt, hat, hfirst⟩ := Node.firstMatch_eq_some hs
  have hstart : s.start ≤ t.length := by omega
  obtain ⟨w, hw, hwt, hstop⟩ := (recognises_recognizer hkeys).matchAt_eq_some hat
  obtain ⟨key, hkey, hagree⟩ := mem_keyTexts.1 hw
  have hoccurs : m.OccursAt t s.start key :=
    ⟨hkey, hstart, exists_prefix_iff.1 ⟨w, hagree, hwt⟩⟩
  refine ⟨⟨⟨key, hoccurs⟩, ?_⟩, ⟨key, hoccurs, by rw [hstop, hagree.length_eq]⟩, ?_⟩
  · rintro i ⟨other, hother⟩
    by_contra hbefore
    have hnone := hfirst i (Nat.zero_le i) (not_le.1 hbefore)
    exact (matchAt_eq_none_iff hkeys hother.2.1).1 hnone other hother
  · rintro n ⟨other, hother, rfl⟩
    obtain ⟨w', hagree', hw'⟩ := exists_prefix_iff.2 hother.2.2
    have hlength := length_le_of_matchAt hat (mem_keyTexts.2 ⟨other, hother.1, hagree'⟩) hw'
    rwa [← hagree'.length_eq] at hlength

theorem IsLeftmostLongest.unique {s s' : Span} (h : m.IsLeftmostLongest t s)
    (h' : m.IsLeftmostLongest t s') : s = s' := by
  obtain ⟨start, stop⟩ := s
  obtain ⟨start', stop'⟩ := s'
  obtain rfl : start = start' := h.start.unique h'.start
  obtain rfl : stop = stop' := h.stop.unique h'.stop
  rfl

theorem search_eq_some_iff (hkeys : m.clusters.keys ≠ []) {s : Span} :
    m.search t = some s ↔ m.IsLeftmostLongest t s := by
  refine ⟨isLeftmostLongest_of_search hkeys, fun h => ?_⟩
  cases hs : m.search t with
  | none =>
    obtain ⟨key, hkey⟩ := h.start.1
    exact absurd hkey ((search_eq_none_iff_forall hkeys).1 hs _ key)
  | some s' => rw [(isLeftmostLongest_of_search hkeys hs).unique h]

/-! ## Models with the same clusters -/

theorem IsLeftmostLongest.of_keys {m' : ToneModel} {s : Span} (hs : m.IsLeftmostLongest t s)
    (h : ∀ key, key ∈ m'.clusters.keys ↔ key ∈ m.clusters.keys) : m'.IsLeftmostLongest t s := by
  have hoccurs (i : Nat) (key : Text) : m'.OccursAt t i key ↔ m.OccursAt t i key :=
    and_congr_left' (h key)
  obtain ⟨hstart, hstop⟩ := hs
  refine ⟨?_, ?_⟩
  · simpa only [hoccurs] using hstart
  · simpa only [hoccurs] using hstop

theorem search_eq_of_keys {m' : ToneModel} (hkeys : m.clusters.keys ≠ [])
    (h : ∀ key, key ∈ m'.clusters.keys ↔ key ∈ m.clusters.keys) (t : Text) :
    m'.search t = m.search t := by
  have hkeys' : m'.clusters.keys ≠ [] := by
    obtain ⟨key, hkey⟩ := List.exists_mem_of_ne_nil _ hkeys
    exact List.ne_nil_of_mem ((h key).2 hkey)
  apply Option.ext
  intro s
  rw [search_eq_some_iff hkeys, search_eq_some_iff hkeys']
  exact ⟨fun hs => hs.of_keys fun key => (h key).symm, fun hs => hs.of_keys h⟩

/-! ## Models of clusters -/

theorem mem_keys_iff {clusters : List ToneCluster} (h : ofClusters clusters = .ok m) {key : Text} :
    key ∈ m.clusters.keys ↔ ∃ c ∈ clusters, lower c.text = key := by
  rw [ofClusters] at h
  split_ifs at h
  obtain rfl := Except.ok.inj h
  rw [Entries.mem_keys_ofPairs, List.map_map, List.mem_map]
  rfl

theorem keys_ne_nil {clusters : List ToneCluster} (h : ofClusters clusters = .ok m) :
    m.clusters.keys ≠ [] := by
  have hne : clusters ≠ [] := by
    rintro rfl
    cases h
  obtain ⟨c, hc⟩ := List.exists_mem_of_ne_nil _ hne
  exact List.ne_nil_of_mem ((mem_keys_iff h).2 ⟨c, hc, rfl⟩)

/-- The pattern of the model is ready to search with, and finds what the model finds. -/
theorem exists_prepare_recognizerSource (hkeys : m.clusters.keys ≠ [])
    (hlowered : ∀ key ∈ m.clusters.keys, IsLowered key) :
    ∃ r, prepare true m.recognizerSource = .ok r ∧
      ∀ t : Text, r.search t 0 t.length = m.search t := by
  exact exists_prepare_words (alternatives_ne_nil hkeys) fun t ht =>
    hlowered t (mem_sortLongest.1 ht)

theorem exists_ofClusters {clusters : List ToneCluster} (h : clusters ≠ []) :
    ∃ m, ofClusters clusters = .ok m :=
  ⟨_, if_neg (by simpa using h)⟩

/-- A model of clusters finds nothing just where none of them stands, and else what is first and,
of several clusters there, the longest. The order of the clusters makes no difference. -/
theorem search_of_ofClusters {clusters : List ToneCluster} (h : clusters ≠ []) :
    ∃ m, ofClusters clusters = .ok m ∧
      (∀ key, key ∈ m.clusters.keys ↔ ∃ c ∈ clusters, lower c.text = key) ∧
      (∃ r, prepare true m.recognizerSource = .ok r ∧
        ∀ t : Text, r.search t 0 t.length = m.search t) ∧
      (∀ t, m.search t = none ↔ ∀ i key, ¬m.OccursAt t i key) ∧
      (∀ t s, m.search t = some s ↔ m.IsLeftmostLongest t s) ∧
      ∀ clusters', clusters'.Perm clusters →
        ∃ m', ofClusters clusters' = .ok m' ∧ ∀ t, m'.search t = m.search t := by
  obtain ⟨m, hm⟩ := exists_ofClusters h
  have hkeys := keys_ne_nil hm
  have hlowered : ∀ key ∈ m.clusters.keys, IsLowered key := by
    intro key hkey
    obtain ⟨c, -, rfl⟩ := (mem_keys_iff hm).1 hkey
    exact isLowered_lower c.text
  refine ⟨m, hm, fun _ => mem_keys_iff hm, exists_prepare_recognizerSource hkeys hlowered,
    fun _ => search_eq_none_iff_forall hkeys, fun _ _ => search_eq_some_iff hkeys, ?_⟩
  intro clusters' hperm
  have hne : clusters' ≠ [] := by
    rintro rfl
    exact h hperm.symm.eq_nil
  obtain ⟨m', hm'⟩ := exists_ofClusters hne
  refine ⟨m', hm', search_eq_of_keys hkeys fun key => ?_⟩
  rw [mem_keys_iff hm, mem_keys_iff hm']
  exact exists_congr fun c => and_congr_left' hperm.mem_iff

/-- An ü and a toned e are found together, in whatever case and order. -/
theorem search_of_ofClusters_compound :
    let clusters : List ToneCluster := [⟨['è'], ['e'], []⟩, ⟨['ü', 'è'], ['v', 'e'], []⟩]
    clusters ≠ [] ∧ ∃ m, ofClusters clusters = .ok m ∧
      m.search ['L', 'Ü', 'È'] = some ⟨1, 3⟩ ∧ m.IsLeftmostLongest ['L', 'Ü', 'È'] ⟨1, 3⟩ := by
  intro clusters
  have hne : clusters ≠ [] := List.cons_ne_nil _ _
  obtain ⟨m, hm, -, -, -, hsome, -⟩ := search_of_ofClusters hne
  have hsearch : m.search ['L', 'Ü', 'È'] = some ⟨1, 3⟩ := by
    obtain rfl := Except.ok.inj hm
    decide
  exact ⟨hne, m, hm, hsearch, (hsome _ _).1 hsearch⟩

end ToneModel

end TonelessPinyin

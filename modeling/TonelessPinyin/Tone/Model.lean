import TonelessPinyin.Error
import TonelessPinyin.Pattern.Escape
import TonelessPinyin.Pattern.Matching
import TonelessPinyin.Tone.Marking

/-!
Tone clusters: the stretches of a syllable that carry its tone. A model finds the first of them in
a syllable, longer clusters before shorter ones, without regard to case.
-/
namespace TonelessPinyin

open Text Pattern

structure ToneCluster where
  text : Text
  base : Text
  /-- All toned forms of the base, by tone. -/
  variants : List Text
  deriving DecidableEq

structure ToneModel where
  /-- Clusters by their text in lower case. -/
  clusters : Entries ToneCluster
  deriving DecidableEq

namespace ToneModel

def ofClusters (clusters : List ToneCluster) : Except Error ToneModel :=
  if clusters.isEmpty then .error .noClusters
  else .ok ⟨.ofPairs (clusters.map fun c => (lower c.text, c))⟩

/-- The clusters of one letter. -/
def simpleClusters (m : Marking) : List ToneCluster :=
  m.marks.flatMap fun (base, marks) =>
    marks.map fun mark => ⟨[mark], base, marks.map ([·])⟩

/-- The clusters of an untoned and a toned letter. -/
def compoundClusters (m : Marking) : Except Error (List ToneCluster) :=
  m.compounds.foldlM (fun clusters (base, opening, vowel) =>
    match m.marks.get? vowel with
    | none => .error (.missingKey vowel)
    | some marks =>
      let variants := marks.map fun mark => opening ++ [mark]
      .ok (clusters ++ variants.map fun text => ⟨text, base, variants⟩)) []

def ofMarking (m : Marking) : Except Error ToneModel := do
  ofClusters (simpleClusters m ++ (← compoundClusters m))

/-- The model of the standard marking. -/
def standard : ToneModel :=
  match ofMarking .standard with
  | .ok m => m
  | .error _ => ⟨[]⟩

def size (m : ToneModel) : Nat := m.clusters.length

/-- The texts to look for, in the order in which they are tried. -/
def alternatives (m : ToneModel) : List Text := sortLongest m.clusters.keys

/-- The pattern that finds a cluster, as a text. -/
def recognizerSource (m : ToneModel) : Text :=
  List.intercalate ['|'] (m.alternatives.map escape)

def recognizer (m : ToneModel) : Node := .choice (m.alternatives.map (.word .unicode))

/-- The first cluster in a syllable. -/
def search (m : ToneModel) (syllable : Text) : Option Span :=
  m.recognizer.search syllable 0 syllable.length

def find? (m : ToneModel) (text : Text) : Option ToneCluster := m.clusters.get? (lower text)

def find (m : ToneModel) (text : Text) : Except Error ToneCluster :=
  match m.find? text with
  | some c => .ok c
  | none => .error (.missingKey (lower text))

end ToneModel

end TonelessPinyin

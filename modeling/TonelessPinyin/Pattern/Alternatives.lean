import TonelessPinyin.Pattern.Syntax

/-!
Alternatives put together. What all of them begin with is moved out of them, and if each then is one
letter or one set, they become one set.
-/
namespace TonelessPinyin.Pattern.Alternatives

/-- A node without parts. Only such nodes are recognised where alternatives share them. -/
def isSimple : Node → Bool
  | .one _ => true
  | .anchor _ => true
  | .again _ _ => true
  | _ => false

/-- The simple nodes that the alternatives share at their beginning, and what is left of each. -/
def factor : List Node → List (List Node) → List Node × List (List Node)
  | [], rest => ([], [] :: rest)
  | r :: first, rest =>
    if isSimple r && rest.all (·.head? == some r) then
      let (shared, left) := factor first (rest.map List.tail)
      (r :: shared, left)
    else ([], (r :: first) :: rest)

/-- The items of an alternative that is one letter or one set. -/
def setItems? : List Node → Option (List SetItem)
  | [.one (.letter _ false c)] => some [.letter c]
  | [.one (.oneOf _ false items)] => some items
  | _ => none

/-- One node for the alternatives. -/
def merge (casing : Casing) (alternatives : List (List Node)) : Node :=
  match alternatives.mapM setItems? with
  | some items => .one (.oneOf casing false items.flatten.eraseDups)
  | none => .choice (alternatives.map .concat)

/-- The nodes that match what one of the alternatives matches. -/
def join (casing : Casing) : List (List Node) → List Node
  | [] => []
  | [nodes] => nodes
  | first :: rest =>
    let (shared, left) := factor first rest
    shared ++ [merge casing left]

/-- Nothing is lost where the shared nodes are put back. -/
theorem map_append_factor (first : List Node) (rest : List (List Node)) :
    (factor first rest).2.map ((factor first rest).1 ++ ·) = first :: rest := by
  induction first generalizing rest with
  | nil => simp [factor]
  | cons r first ih =>
    by_cases h : (isSimple r && rest.all (·.head? == some r)) = true
    · have put : rest.map (fun nodes => r :: nodes.tail) = rest := by
        refine (List.map_congr_left fun nodes member => ?_).trans (List.map_id rest)
        have head := List.all_eq_true.1 (Bool.and_eq_true_iff.1 h).2 nodes member
        cases nodes with
        | nil => simp at head
        | cons q nodes =>
        have same : q = r := by simpa using head
        simp [same]
      have := congrArg (List.map (r :: ·)) (ih (rest.map List.tail))
      simpa [factor, h, Function.comp_def, put] using this
    · simp [factor, h]

end TonelessPinyin.Pattern.Alternatives

import ResourcePaths.Text.Words

/-!
# Qualified names

The name of an element is a namespace and a simple name with a dot between.  The simple name is
what stands behind the last dot.
-/

namespace ResourcePaths
namespace Name

/-- The namespace and the simple name; a name without a dot has an empty namespace. -/
def split (name : String) : String × String :=
  match Text.cutLast? '.' name.toList with
  | some (front, back) => (String.ofList front, String.ofList back)
  | none => ("", name)

/-- A simple name in a namespace. -/
def qualify (namespaceName name : String) : String :=
  if namespaceName.isEmpty then name else namespaceName ++ "." ++ name

/-- The mark in front of the type of the items of a collection. -/
def collectionMark : List Char := "Collection(".toList

/-- The name of the type of the items, for the name of a collection. -/
def itemName? (name : List Char) : Option (List Char) :=
  (Text.dropFront? collectionMark (Text.trim name)).bind fun rest =>
    (Text.dropBack? ')' rest).map Text.trim

/-- The name of the type of the items, for the name of a collection. -/
def collectionItem? (name : String) : Option String :=
  (itemName? name.toList).map String.ofList

def isCollection (name : String) : Bool :=
  (collectionItem? name).isSome

theorem trimFront_length (text : List Char) :
    (Text.trimFront text).length ≤ text.length :=
  (List.dropWhile_sublist Text.isBlank).length_le

theorem trim_length (text : List Char) : (Text.trim text).length ≤ text.length := by
  have inner := trimFront_length text
  have outer := trimFront_length (Text.trimFront text).reverse
  simp only [Text.trim, List.length_reverse] at *
  omega

theorem dropFront?_length {front text rest : List Char}
    (h : Text.dropFront? front text = some rest) :
    text.length = front.length + rest.length := by
  fun_induction Text.dropFront? front text with
  | case1 text => simp_all
  | case2 => simp at h
  | case3 c front text ih =>
    have := ih h
    simp only [List.length_cons]
    omega
  | case4 => simp at h

theorem dropBack?_length {last : Char} {text rest : List Char}
    (h : Text.dropBack? last text = some rest) : rest.length ≤ text.length := by
  unfold Text.dropBack? at h
  split at h
  · simp only [Option.some.injEq] at h
    simp only [← h, List.length_dropLast]
    omega
  · simp at h

/-- The name of the items is shorter than that of the collection. -/
theorem itemName?_length {name item : List Char} (h : itemName? name = some item) :
    item.length < name.length := by
  obtain ⟨rest, hfront, hback⟩ := Option.bind_eq_some_iff.1 h
  obtain ⟨inner, hinner, rfl⟩ := Option.map_eq_some_iff.1 hback
  have hmark : collectionMark.length = 11 := by decide
  have := trim_length name
  have := trim_length inner
  have := dropFront?_length hfront
  have := dropBack?_length hinner
  omega

/-- How many collections a name wraps around another one, and that other name. -/
def peel (name : List Char) : Nat × List Char :=
  match _hitem : itemName? name with
  | some item =>
    let (layers, inner) := peel item
    (layers + 1, inner)
  | none => (0, name)
termination_by name.length
decreasing_by exact itemName?_length _hitem

end Name
end ResourcePaths

import ResourcePaths.Model.Element

/-!
# Index of names

The numbers of the elements of each qualified name.  The order of the groups carries no meaning.
-/

namespace ResourcePaths

/-- The numbers of the elements of each name, in rising order. -/
abbrev NameIndex := List (String × List ElementId)

namespace NameIndex

/-- The index with one more element. -/
def insert (name : String) (id : ElementId) : NameIndex → NameIndex
  | [] => [(name, [id])]
  | (found, ids) :: rest =>
    if found = name then (found, ids ++ [id]) :: rest else (found, ids) :: insert name id rest

def ofElements (elements : List Element) : NameIndex :=
  elements.foldl (fun index element => index.insert element.fullName element.id) []

/-- The numbers of the elements of a name, where there are any. -/
def find? (index : NameIndex) (name : String) : Option (List ElementId) :=
  index.lookup name

/-- The numbers of the elements whose name equals a name up to the case of ASCII letters. -/
def alike (index : NameIndex) (name : String) : List ElementId :=
  ((index.filter fun group => Text.alike group.1 name).flatMap (·.2)).mergeSort

end NameIndex
end ResourcePaths

import ResourcePaths.Model.Basic

/-!
# Enumeration types and type definitions

The values of members are written or follow from the member before: by counting on, or, in a
flags type, by doubling.
-/

namespace ResourcePaths

/-- The items whose key occurs among the keys seen or in front of them. -/
def repeatedBy {α : Type} (key : α → String) (seen : List String) : List α → List α
  | [] => []
  | item :: rest =>
    if seen.contains (key item) then item :: repeatedBy key seen rest
    else repeatedBy key (key item :: seen) rest

/-- No key comes again exactly if all keys are different and none has been seen. -/
theorem repeatedBy_eq_nil_iff {α : Type} {key : α → String} {seen : List String}
    {items : List α} :
    repeatedBy key seen items = [] ↔
      (items.map key).Nodup ∧ ∀ item ∈ items, key item ∉ seen := by
  induction items generalizing seen with
  | nil => simp [repeatedBy]
  | cons item rest ih =>
      rw [repeatedBy, List.map_cons, List.nodup_cons, List.forall_mem_cons]
      split
      · rename_i hseen
        rw [List.contains_iff_mem] at hseen
        simp [hseen]
      · rename_i hnew
        rw [List.contains_iff_mem] at hnew
        simp only [ih, List.mem_cons, not_or, List.mem_map, not_exists, not_and]
        constructor
        · rintro ⟨hnodup, hrest⟩
          exact ⟨⟨fun other hmem => (hrest other hmem).1, hnodup⟩, hnew,
            fun other hmem => (hrest other hmem).2⟩
        · rintro ⟨⟨hitem, hnodup⟩, -, hrest⟩
          exact ⟨hnodup, fun other hmem => ⟨hitem other hmem, hrest other hmem⟩⟩

/-- A member of an enumeration type with its value. -/
structure EnumMember where
  name : String
  value : Int64
  deriving DecidableEq, Repr

namespace EnumType

/-- The value behind a value: its double in a flags type, else the next integer.  The end of
the range is never passed. -/
def nextValue (isFlags : Bool) (value : Int64) : Int64 :=
  if isFlags then Integer.saturate (max (value.toInt * 2) 1)
  else Integer.saturate (value.toInt + 1)

/-- The members with their values, where `next` is the value of a first member without one. -/
def number (isFlags : Bool) (next : Int64) : List Declared.EnumMember → List EnumMember
  | [] => []
  | member :: rest =>
    let value := member.value.getD next
    ⟨member.name, value⟩ :: number isFlags (nextValue isFlags value) rest

def members (type : EnumType) : List EnumMember :=
  number type.decl.isFlags (if type.decl.isFlags then 1 else 0) type.decl.members

/-- The first member with a name. -/
def findMember? (type : EnumType) (name : String) : Option EnumMember :=
  type.members.find? fun member => member.name = name

/-- The integral type named below the type. -/
def integral? (type : EnumType) : Option Primitive :=
  (type.decl.underlyingType.bind Primitive.ofName?).filter Primitive.isIntegral

/-- The type of the values; integers of thirty-two bits unless another one is named. -/
def underlyingType (type : EnumType) : Primitive :=
  type.integral?.getD .int32

/-- The problem of an underlying type that is not integral. -/
def underlyingErrors (type : EnumType) : List ModelError :=
  match type.decl.underlyingType with
  | some name =>
    if type.integral?.isSome then []
    else [⟨type.decl.location, .enumUnderlyingType name⟩]
  | none => []

def errorsIn (context : Option Model) (type : EnumType) : List ModelError :=
  Model.duplicateErrorsIn context (.enum type) type.decl.location ++
  type.underlyingErrors ++
  (repeatedBy EnumMember.name [] type.members).map fun member =>
    ⟨type.decl.location, .duplicateEnumMember member.name⟩

end EnumType

namespace TypeDefinition

/-- The primitive type that the name stands for. -/
def underlyingType? (type : TypeDefinition) : Option Primitive :=
  Primitive.ofName? type.decl.underlyingType

def errorsIn (context : Option Model) (type : TypeDefinition) : List ModelError :=
  Model.duplicateErrorsIn context (.definition type) type.decl.location ++
  if type.underlyingType?.isSome then []
  else [⟨type.decl.location, .definitionUnderlyingType type.decl.underlyingType⟩]

end TypeDefinition
end ResourcePaths

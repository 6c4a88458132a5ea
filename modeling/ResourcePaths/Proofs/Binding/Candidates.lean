import ResourcePaths.Binding.Binder
import ResourcePaths.Proofs.Model.FullNames

/-!
# What an identifier may stand for

A binder finds what an identifier may stand for through the index of names, and then keeps the
operations that can be called, or the types.  The model itself answers such questions in its own
ways: it goes through all its operations for those that can be called on a value, and it resolves a
name of a type step by step.  Where case counts, the operations are the same ones in the same order,
and the types are those that the resolution decides by: one is what the name leads to, and none or
several are what makes the name fail.
-/

namespace ResourcePaths

namespace Element

/-- The items of a kind among the elements of a name are those with that name among all items of the
kind, in the same order. -/
theorem filterMap_filter_fullName {α : Type} {item? : Element → Option α} {nameOf : α → String}
    (hname : ∀ element item, item? element = some item → nameOf item = element.fullName)
    (elements : List Element) (full : String) :
    (elements.filter fun element => element.fullName = full).filterMap item? =
      (elements.filterMap item?).filter fun item => nameOf item = full := by
  rw [List.filterMap_filter, List.filter_filterMap]
  refine List.filterMap_congr fun element _ => ?_
  cases hitem : item? element with
  | none => simp
  | some item => simp [Option.filter_some, hname element item hitem]

theorem filterMap_type? (elements : List Element) :
    elements.filterMap type? =
      (elements.filter fun element => element.kind.isType).map fun element =>
        TypeReference.ofElement (some element) := by
  rw [← List.filterMap_eq_map, List.filterMap_filter]
  exact List.filterMap_congr fun element _ => element.type?_eq

end Element

/-- Only a placeholder has problems to tell of. -/
theorem ModelType.errors_eq_nil {type : ModelType} (h : type.isBad = false) :
    type.errors = [] := by
  induction type with
  | collection item ih => exact ih h
  | bad => contradiction
  | primitive | structured | enum | definition | untyped => rfl

/-- What a name leads to, from the types that have it: the only one, or a placeholder that says
whether there is none or how many there are. -/
inductive ModelType.DecidedBy (name : String) : List ModelType → ModelType → Prop where
  | one {type : ModelType} (good : type.isBad = false) : DecidedBy name [type] type
  | none : DecidedBy name []
      (.bad (.ofName name .typeDefinition [⟨{}, .unresolvedType name⟩]))
  | several {types : List ModelType} (many : 1 < types.length) : DecidedBy name types
      (.bad (.ofName name .typeDefinition [⟨{}, .ambiguousType name types.length⟩]))

namespace ModelType.DecidedBy

variable {name : String} {types : List ModelType} {resolved : ModelType}

theorem eq_singleton_iff (h : DecidedBy name types resolved) (type : ModelType) :
    types = [type] ↔ resolved = type ∧ type.isBad = false := by
  constructor
  · rintro rfl
    cases h with
    | one good => exact ⟨rfl, good⟩
    | several many => exact absurd many (Nat.lt_irrefl 1)
  · rintro ⟨rfl, hgood⟩
    cases h with
    | one good => rfl
    | none | several => contradiction

theorem one_lt_length_iff (h : DecidedBy name types resolved) :
    1 < types.length ↔ resolved.errors.map ModelError.code = [.ambiguousTypeName] := by
  cases h with
  | one good =>
      rw [errors_eq_nil good]
      exact iff_of_false (Nat.lt_irrefl 1) (List.cons_ne_nil _ _).symm
  | none =>
      have hother : [ErrorCode.unresolvedType] ≠ [.ambiguousTypeName] := by decide
      exact iff_of_false (Nat.not_lt_zero 1) hother
  | several many => exact iff_of_true many rfl

theorem eq_nil_iff (h : DecidedBy name types resolved) :
    types = [] ↔ resolved.errors.map ModelError.code = [.unresolvedType] := by
  cases h with
  | one good =>
      rw [errors_eq_nil good]
      exact iff_of_false (List.cons_ne_nil _ _) (List.cons_ne_nil _ _).symm
  | none => exact iff_of_true rfl rfl
  | several many =>
      have hother : [ErrorCode.ambiguousTypeName] ≠ [.unresolvedType] := by decide
      exact iff_of_false (List.ne_nil_of_length_pos (Nat.zero_lt_of_lt many)) hother

end ModelType.DecidedBy

namespace Model

variable {model : Model}

/-- The operations of a name, among all operations of the model. -/
theorem Indexed.findOperations_eq (h : model.Indexed) (name : String) :
    model.findOperations name =
      model.operations.filter fun operation =>
        operation.fullName = model.normalize (Text.trimmed name) := by
  rw [findOperations, h.find_eq_matching, matching_exactly, operations]
  refine Element.filterMap_filter_fullName (fun element operation hview => ?_) _ _
  cases element with
  | operation node =>
      obtain rfl := Option.some.inj hview
      rfl
  | structured | enum | definition | term | container => contradiction

/-- The types of a name that is not that of a primitive type are those among which the name is
resolved. -/
theorem Indexed.typesNamed_eq (h : model.Indexed) {name : String}
    (hprimitive : Primitive.ofName? name = none) :
    model.typesNamed false name =
      (model.typeIdsOf name).map fun id => TypeReference.ofElement (model.element? id) := by
  simp only [typesNamed, hprimitive]
  rw [h.find_eq_matching, matching_exactly, h.typeIdsOf_eq, List.map_map,
    Element.filterMap_type?]
  refine List.map_congr_left fun element hmem => ?_
  have helement : element ∈ model.elements := List.mem_of_mem_filter (List.mem_of_mem_filter hmem)
  rw [Function.comp_apply, h.element?_id helement]

/-- A name without blanks at its ends, and not of a form that is built in, is decided by the types
of that name. -/
theorem Indexed.resolveType_decidedBy (h : model.Indexed) {name : String}
    (htrimmed : Text.trimmed name = name) (hplain : Name.isCollection name = false)
    (huntyped : name ≠ "Edm.Untyped") :
    ModelType.DecidedBy name (model.typesNamed false name) (model.resolveType name) := by
  rw [resolveType_of_not_collection hplain, htrimmed, resolveNamed, if_neg huntyped]
  cases hprimitive : Primitive.ofName? name with
  | some primitive =>
      simp only [typesNamed, hprimitive]
      exact .one rfl
  | none =>
      rw [h.typesNamed_eq hprimitive]
      cases hids : model.typeIdsOf name with
      | nil => exact .none
      | cons id others =>
          cases others with
          | nil =>
              obtain ⟨element, helement, htype⟩ :=
                isType_of_mem_typeIdsOf (hids ▸ List.mem_singleton_self id)
              have hgood : (TypeReference.ofElement (model.element? id)).isBad = false := by
                rw [helement, ← Bool.not_eq_true, ModelType.isBad_iff,
                  TypeReference.ofElement_of_isType htype]
                simp
              exact .one hgood
          | cons second others =>
              have hseveral : ModelType.DecidedBy name ((id :: second :: others).map fun id =>
                  TypeReference.ofElement (model.element? id)) _ := .several (by simp)
              rwa [List.length_map] at hseveral

end Model

/-- The name of a collection has a parenthesis in it. -/
theorem Name.isCollection_of_paren_notMem {name : String} (htrimmed : Text.trimmed name = name)
    (h : '(' ∉ name.toList) : isCollection name = false := by
  rw [← Bool.not_eq_true, isCollection, collectionItem?, Option.isSome_map,
    Option.isSome_iff_exists]
  rintro ⟨item, hitem⟩
  obtain ⟨rest, hfront, -⟩ := Option.bind_eq_some_iff.1 hitem
  have htrim := congrArg String.toList htrimmed
  rw [Text.trimmed, String.toList_ofList] at htrim
  rw [← htrim, Text.eq_append_of_dropFront? hfront] at h
  exact h (List.mem_append_left _ (by decide))

namespace Binder

variable (binder : Binder) {identifier : String}

/-- By a dotted identifier only operations of that name are called, and all of them that are bound
to the type. -/
theorem boundCandidates_dotted (hindexed : binder.model.Indexed)
    (hexact : binder.settings.ignoreCase = false) (hdotted : Text.mentions identifier '.' = true)
    (type : ModelType) :
    binder.boundCandidates identifier type =
      (binder.model.findBoundOperations type).filter fun operation =>
        operation.fullName = binder.model.normalize (Text.trimmed identifier) := by
  simp only [boundCandidates, hdotted, if_true, hexact]
  show (binder.model.findOperations identifier).filter (binder.model.isBoundTo type) = _
  rw [hindexed.findOperations_eq, Model.findBoundOperations, List.filter_comm]

theorem boundCandidates_simple (hexact : binder.settings.ignoreCase = false)
    (hsimple : Text.mentions identifier '.' = false) (type : ModelType) :
    binder.boundCandidates identifier type =
      if binder.settings.unqualifiedCalls then
        (binder.model.findBoundOperations type).filter fun operation =>
          operation.decl.name = identifier
      else [] := by
  simp [boundCandidates, hsimple, hexact]

theorem castTargets_dotted (hexact : binder.settings.ignoreCase = false)
    (hdotted : Text.mentions identifier '.' = true) :
    binder.castTargets identifier = binder.model.typesNamed false identifier := by
  rw [castTargets, if_pos hdotted, hexact]

/-- Where case counts, the operations that may be called on a value are, in the order of their
declarations, the operations bound to its type that have the name of the identifier: the qualified
one with the namespace in place of a short name, or the simple one where calls without a namespace
are allowed.  The types that a dotted identifier may stand for are one, several or none just as the
identifier leads to a type, to several or to none. -/
theorem candidates_of_model (description : Declared.Description) (container : Option Container)
    (settings : Settings) (hexact : settings.ignoreCase = false) (identifier : String) :
    let model := Model.ofDescription description
    let binder : Binder := ⟨model, container, settings⟩
    (∀ type, Text.mentions identifier '.' = true →
      binder.boundCandidates identifier type =
        (model.findBoundOperations type).filter fun operation =>
          operation.fullName = model.normalize (Text.trimmed identifier)) ∧
    (∀ type, Text.mentions identifier '.' = false →
      binder.boundCandidates identifier type =
        if settings.unqualifiedCalls then
          (model.findBoundOperations type).filter fun operation =>
            operation.decl.name = identifier
        else []) ∧
    (Text.mentions identifier '.' = true → Text.trimmed identifier = identifier →
      '(' ∉ identifier.toList → identifier ≠ "Edm.Untyped" →
      (∀ type, binder.castTargets identifier = [type] ↔
        model.resolveType identifier = type ∧ type.isBad = false) ∧
      (1 < (binder.castTargets identifier).length ↔
        (model.resolveType identifier).errors.map ModelError.code = [.ambiguousTypeName]) ∧
      (binder.castTargets identifier = [] ↔
        (model.resolveType identifier).errors.map ModelError.code = [.unresolvedType])) := by
  intro model binder
  have hindexed : model.Indexed := Model.indexed_ofDescription description
  refine ⟨?called, ?calledSimply, ?casts⟩
  case called =>
    intro type hdotted
    exact binder.boundCandidates_dotted hindexed hexact hdotted type
  case calledSimply =>
    intro type hsimple
    exact binder.boundCandidates_simple hexact hsimple type
  case casts =>
    intro hdotted htrimmed hparen huntyped
    rw [binder.castTargets_dotted hexact hdotted]
    have hplain := Name.isCollection_of_paren_notMem htrimmed hparen
    have hdecided := hindexed.resolveType_decidedBy htrimmed hplain huntyped
    exact ⟨hdecided.eq_singleton_iff, hdecided.one_lt_length_iff, hdecided.eq_nil_iff⟩

/-- Tools, and functions on them: overloads in a namespace with a short name, one of them not bound,
and one more in another namespace; and a type and an enumeration of one name. -/
def workshop : Declared.Description where
  schemas := [
    { namespaceName := "Public.Works", shortName := some "W"
      entityTypes := [{
        name := "Tool", key := some ["Id"]
        properties := [{ name := "Id", typeName := "Edm.Int32" }] }]
      complexTypes := [{ name := "Twin" }]
      enumTypes := [{ name := "Twin" }]
      functions := [
        { name := "Mend", isBound := true, returnType := some { typeName := "Edm.Int32" }
          parameters := [{ name := "it", typeName := "W.Tool" }] },
        { name := "Mend", returnType := some { typeName := "Edm.Int32" } },
        { name := "Mend", isBound := true, returnType := some { typeName := "Edm.Int32" }
          parameters := [
            { name := "it", typeName := "W.Tool" },
            { name := "hours", typeName := "Edm.Int32" }] }] },
    { namespaceName := "Private"
      functions := [
        { name := "Mend", isBound := true, returnType := some { typeName := "Edm.Int32" }
          parameters := [{ name := "it", typeName := "W.Tool" }] }] }]

/-- By the short name of its namespace one of two groups of functions is called, and both together
without a namespace; a type that is the only one of its name, one of two, and one that is not
there. -/
theorem candidates_of_model_workshop :
    let model := Model.ofDescription workshop
    let binder : Binder := ⟨model, none, { unqualifiedCalls := true }⟩
    let tool := model.resolveType "Public.Works.Tool"
    (binder.boundCandidates "W.Mend" tool).map (fun operation => operation.id) = [3, 5] ∧
      (binder.boundCandidates "Mend" tool).map (fun operation => operation.id) = [3, 5, 6] ∧
      binder.castTargets "W.Tool" = [tool] ∧ 1 < (binder.castTargets "W.Twin").length ∧
      binder.castTargets "W.Toy" = [] := by
  intro model binder tool
  have hagree := candidates_of_model workshop none { unqualifiedCalls := true } rfl
  have hcasts (identifier : String) := (hagree identifier).2.2
  refine ⟨?_, ?_, ?_, ?_, ?_⟩
  · rw [(hagree "W.Mend").1 tool (by decide)]
    decide +kernel
  · rw [(hagree "Mend").2.1 tool (by decide)]
    decide +kernel
  · obtain ⟨hone, -, -⟩ := hcasts "W.Tool" (by decide) (by decide +kernel) (by decide) (by decide)
    exact (hone tool).2 ⟨by decide +kernel, by decide +kernel⟩
  · obtain ⟨-, hseveral, -⟩ :=
      hcasts "W.Twin" (by decide) (by decide +kernel) (by decide) (by decide)
    exact hseveral.2 (by decide +kernel)
  · obtain ⟨-, -, hnone⟩ := hcasts "W.Toy" (by decide) (by decide +kernel) (by decide) (by decide)
    exact hnone.2 (by decide +kernel)

end Binder
end ResourcePaths

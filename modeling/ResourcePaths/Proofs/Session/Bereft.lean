import ResourcePaths.Proofs.Session.Dropped

/-!
# Derivations without a model

What a cell is filled with when the model is gone and the cell is first read.  All parts of such a
derivation can be read in the one session in which it starts, since no part shows what has been read
in between.  So the problems of a node are put together from what the session gives for its parts,
as they are while the model lives, with nothing in place of what the model would have told.
-/

namespace ResourcePaths
namespace Session

variable {base : Session} {α β : Type}

/-! ### Readings in one session -/

theorem remember_of_empty {cell : Cell} {derive : Reading cell.Value} {value : cell.Value}
    (h : base.memory.find? cell = none) (hderive : GivesIn (Grown base) derive value) :
    ((remember cell derive).run base).1 = value := by
  rw [run_remember_of_empty h]
  exact hderive.eq

/-- The problems of parameters are gathered from those that each of them has in the session. -/
theorem givesIn_parameterErrors (operation : Operation) (seen : List String)
    (parameters : List Parameter) :
    GivesIn (Grown base) (parameterErrors operation seen parameters)
      (operation.parameterErrors (fun parameter => ((parameterReference parameter).run base).1.errors)
        seen parameters) := by
  induction parameters generalizing seen with
  | nil => exact givesIn_pure []
  | cons parameter rest ih =>
      exact (steady_parameterReference parameter).givesIn.bind ((ih _).map _)

/-! ### Problems -/

theorem termDefault?_of_empty {term : Term} (h : base.memory.find? (.termDefault term) = none) :
    ((termDefault? term).run base).1 = term.defaultWith ((termType term).run base).1 := by
  refine remember_of_empty h ?_
  cases hdefault : term.decl.defaultValue with
  | some text => exact (steady_termType term).givesIn.map _
  | none =>
      rw [Term.defaultWith, hdefault]
      exact givesIn_pure none

theorem annotationErrors_of_empty {note : Annotation}
    (h : base.memory.find? (.annotationErrors note) = none) :
    ((annotationErrors note).run base).1 =
      ((termOf note).run base).1.errors ++
        ((expressionErrors note [] note.decl.expression).run base).1 :=
  remember_of_empty h <|
    (steady_termOf note).givesIn.bind <| (steady_expressionErrors note [] _).givesIn.map _

theorem sourceErrors_of_empty {source : DeclaredSource}
    (h : base.memory.find? (.sourceErrors source) = none) :
    ((sourceErrors source).run base).1 =
      ((sourceReference source).run base).1.errors ++ ((bindings source).run base).1.errors :=
  remember_of_empty h <|
    (steady_sourceReference source).givesIn.bind <| (steady_bindings source).givesIn.map _

section Bereft

variable (hmodel : base.model = none)
include hmodel

theorem givesIn_context : GivesIn (Grown base) context none := by
  have h : GivesIn (Grown base) context base.model := steady_context.givesIn
  rwa [hmodel] at h

theorem givesIn_walk (type : StructuredType) : GivesIn (Grown base) (walk type) ([], false) := by
  have hbase : GivesIn (Grown base) (baseStructured? type) none := by
    have h : GivesIn (Grown base) (baseStructured? type) _ := (steady_baseStructured? type).givesIn
    rwa [baseStructured?_of_dropped hmodel] at h
  refine hbase.bind ((givesIn_context hmodel).bind ?_)
  rw [climb]
  exact givesIn_pure _

theorem givesIn_keyNames? (type : StructuredType) :
    GivesIn (Grown base) (keyNames? type) type.decl.key := by
  rw [keyNames?]
  cases hkey : type.decl.key with
  | some names => exact givesIn_pure _
  | none =>
      have h := ((givesIn_walk hmodel type).map Prod.fst).map type.gatherKeyNames
      rwa [StructuredType.gatherKeyNames, hkey] at h

theorem properties_of_empty {type : StructuredType}
    (h : base.memory.find? (.properties type) = none) :
    ((properties type).run base).1 = type.declaredProperties :=
  remember_of_empty h (((givesIn_walk hmodel type).map Prod.fst).map type.gatherProperties)

theorem structuredErrors_of_empty {type : StructuredType}
    (h : base.memory.find? (.elementErrors (.structured type)) = none) :
    ((structuredErrors type).run base).1 =
      type.gatherErrors ((baseReference type).run base).1.errors [] false
        ((properties type).run base).1
        (type.declaredProperties.flatMap fun property => ((propertyErrors property).run base).1)
        type.decl.key :=
  remember_of_empty h <| (steady_baseReference type).givesIn.bind <|
    (givesIn_context hmodel).bind <| (givesIn_walk hmodel type).bind <|
    (steady_properties type).givesIn.bind <|
    (givesIn_flatMapM fun property _ => (steady_propertyErrors property).givesIn).bind <|
    (givesIn_keyNames? hmodel type).map _

theorem importErrors_of_empty {imp : OperationImport}
    (h : base.memory.find? (.importErrors imp) = none) :
    ((importErrors imp).run base).1 =
      ((importedReferences imp).run base).1.errors ++ imp.entitySetErrors none :=
  remember_of_empty h <|
    (steady_importedReferences imp).givesIn.bind <| (givesIn_context hmodel).map _

theorem containerErrors_of_empty {container : Container}
    (h : base.memory.find? (.elementErrors (.container container)) = none) :
    ((containerErrors container).run base).1 =
      container.gatherErrors []
        ((container.entitySets ++ container.singletons).flatMap fun source =>
          ((sourceErrors source).run base).1)
        (container.imports.flatMap fun imp => ((importErrors imp).run base).1) :=
  remember_of_empty h <| (givesIn_context hmodel).bind <|
    (givesIn_flatMapM fun source _ => (steady_sourceErrors source).givesIn).bind <|
    (givesIn_flatMapM fun imp _ => (steady_importErrors imp).givesIn).map _

theorem operationErrors_of_empty {operation : Operation}
    (h : base.memory.find? (.elementErrors (.operation operation)) = none) :
    ((operationErrors operation).run base).1 =
      operation.gatherErrors []
        (operation.parameterErrors
          (fun parameter => ((parameterReference parameter).run base).1.errors) []
          operation.parameters)
        ((resultReference operation).run base).1.errors :=
  remember_of_empty h <| (givesIn_context hmodel).bind <|
    (givesIn_parameterErrors operation [] _).bind <|
    (steady_resultReference operation).givesIn.map _

theorem termErrors_of_empty {term : Term}
    (h : base.memory.find? (.elementErrors (.term term)) = none) :
    ((termErrors term).run base).1 =
      Term.gatherErrors [] ((termReference term).run base).1.errors
        ((termDefault? term).run base).1 :=
  remember_of_empty h <| (givesIn_context hmodel).bind <|
    (steady_termReference term).givesIn.bind <| (steady_termDefault? term).givesIn.map _

end Bereft

end Session
end ResourcePaths

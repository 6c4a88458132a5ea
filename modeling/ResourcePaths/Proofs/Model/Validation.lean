import ResourcePaths.Proofs.Model.Resolution
import ResourcePaths.Proofs.Session.Transparency

/-!
# What the validation of a model reports

Every reference of a model that leads to a placeholder is reported: the problems that the
placeholder carries are among those of the element or the annotation that the reference stands in,
and these are among the problems of the model.  So are bindings without a target, imports without
an operation, and imports of an entity set that does not exist.
-/

namespace ResourcePaths

open Declared (Location)

/-- An operation is mentioned in an expression, at the end of a way through its collections. -/
inductive Declared.Expression.Mentions :
    Declared.Expression → List Nat → String → Location → Prop
  | here (name : String) (location : Location) :
      Mentions (.operationReference name location) [] name location
  | inside {items : List Declared.Expression} {place location : Location} {position : Nat}
      {item : Declared.Expression} {way : List Nat} {name : String}
      (hitem : items[position]? = some item) (hmention : Mentions item way name location) :
      Mentions (.collection items place) (position :: way) name location

/-- The references of a model, each by what it stands in. -/
inductive Reference where
  /-- The type of a property. -/
  | property (property : Property)
  /-- The base type of a structured type. -/
  | base (type : StructuredType)
  /-- The type of a parameter. -/
  | parameter (parameter : Parameter)
  /-- The type of the result of an operation. -/
  | result (operation : Operation)
  /-- The type of an entity set or a singleton. -/
  | source (source : DeclaredSource)
  /-- The type of a term. -/
  | term (term : Term)
  /-- The term of an annotation. -/
  | applied (note : Annotation)
  /-- An operation that is mentioned in an annotation. -/
  | mentioned (note : Annotation) (way : List Nat) (name : String) (location : Location)

/-- The placeholder in place of an element. -/
def Placeholder.ofElement? : Except Placeholder Element → Option Placeholder
  | .ok _ => none
  | .error placeholder => some placeholder

namespace Reference

/-- The references of the elements and the annotations of a model. -/
inductive IsOf (model : Model) : Reference → Prop
  | property {type : StructuredType} {property : Property}
      (htype : .structured type ∈ model.elements) (hproperty : property ∈ type.declaredProperties) :
      IsOf model (.property property)
  | base {type : StructuredType} (htype : .structured type ∈ model.elements) :
      IsOf model (.base type)
  | parameter {operation : Operation} {parameter : Parameter}
      (hoperation : .operation operation ∈ model.elements)
      (hparameter : parameter ∈ operation.parameters) : IsOf model (.parameter parameter)
  | result {operation : Operation} (hoperation : .operation operation ∈ model.elements) :
      IsOf model (.result operation)
  | source {container : Container} {source : DeclaredSource}
      (hcontainer : .container container ∈ model.elements)
      (hsource : source ∈ container.entitySets ++ container.singletons) :
      IsOf model (.source source)
  | term {term : Term} (hterm : .term term ∈ model.elements) : IsOf model (.term term)
  | applied {note : Annotation} (hnote : note ∈ model.annotations) : IsOf model (.applied note)
  | mentioned {note : Annotation} {way : List Nat} {name : String} {location : Location}
      (hnote : note ∈ model.annotations)
      (hmention : note.decl.expression.Mentions way name location) :
      IsOf model (.mentioned note way name location)

/-- Reads what a reference leads to, and gives the placeholder if it is one. -/
def read : Reference → Reading (Option Placeholder)
  | property node => do return (← Session.typeOf node).placeholder?
  | base type => do return (← Session.baseType? type).bind ModelType.placeholder?
  | parameter node => do return (← Session.parameterType node).placeholder?
  | result operation => do
    return (← Session.resultType? operation).bind ModelType.placeholder?
  | source node => do return (← Session.sourceType (.declared node)).placeholder?
  | term node => do return (← Session.termType node).placeholder?
  | applied note => do return Placeholder.ofElement? (← Session.appliedTerm note)
  | mentioned note way name location => do
    return Placeholder.ofElement? (← Session.referencedOperation note way name location)

/-- The placeholder that a reference leads to in a model. -/
def placeholder? (model : Model) : Reference → Option Placeholder
  | property node => (model.typeOf node).placeholder?
  | base type => (model.baseType? type).bind ModelType.placeholder?
  | parameter node => (model.parameterType node).placeholder?
  | result operation => (model.resultType? operation).bind ModelType.placeholder?
  | source node => (model.sourceType (.declared node)).placeholder?
  | term node => (model.termType node).placeholder?
  | applied note => Placeholder.ofElement? (model.appliedTerm note)
  | mentioned _ _ name location => Placeholder.ofElement? (model.referencedOperation name location)

theorem gives_read {model : Model} (reference : Reference) :
    Session.Gives model reference.read (reference.placeholder? model) := by
  cases reference with
  | property property => exact (Session.gives_typeOf property).map _
  | base type => exact (Session.gives_baseType? type).map _
  | parameter parameter => exact (Session.gives_parameterType parameter).map _
  | result operation => exact (Session.gives_resultType? operation).map _
  | source source => exact (Session.gives_sourceType (.declared source)).map _
  | term term => exact (Session.gives_termType term).map _
  | applied note => exact (Session.gives_appliedTerm note).map _
  | mentioned note way name location =>
      exact (Session.gives_referencedOperation note way name location).map _

end Reference

namespace Model

variable {model : Model} {error : ModelError}

/-! ### What the problems of a model are made of -/

theorem mem_validate_of_element {element : Element} (helement : element ∈ model.elements)
    (h : error ∈ model.elementErrors element) : error ∈ model.validate :=
  List.mem_append_left _ (List.mem_flatMap.2 ⟨element, helement, h⟩)

theorem mem_validate_of_annotation {note : Annotation} (hnote : note ∈ model.annotations)
    (h : error ∈ model.annotationErrors note) : error ∈ model.validate :=
  List.mem_append_right _ (List.mem_flatMap.2 ⟨note, hnote, h⟩)

theorem mem_structuredErrors {type : StructuredType}
    (h : error ∈ (type.baseReferenceIn (some model)).errors ∨
      ∃ property ∈ type.declaredProperties, error ∈ (property.referenceIn (some model)).errors) :
    error ∈ model.structuredErrors type := by
  simp only [structuredErrors, StructuredType.gatherErrors, List.mem_append]
  rcases h with hbase | ⟨property, hproperty, hmem⟩
  · exact .inl (.inl (.inl (.inl (.inl hbase))))
  · exact .inl (.inr (List.mem_flatMap.2 ⟨property, hproperty, hmem⟩))

theorem mem_parameterErrors {operation : Operation} {errorsOf : Parameter → List ModelError}
    {parameter : Parameter} {parameters : List Parameter} (hmem : parameter ∈ parameters)
    (h : error ∈ errorsOf parameter) (seen : List String) :
    error ∈ operation.parameterErrors errorsOf seen parameters := by
  induction parameters generalizing seen with
  | nil => contradiction
  | cons first rest ih =>
      rw [Operation.parameterErrors, List.mem_append, List.mem_append]
      rcases List.mem_cons.1 hmem with rfl | hrest
      · exact .inl (.inr h)
      · exact .inr (ih hrest _)

theorem mem_operationErrors {operation : Operation}
    (h : error ∈ (operation.resultReferenceIn (some model)).errors ∨
      ∃ parameter ∈ operation.parameters, error ∈ (parameter.referenceIn (some model)).errors) :
    error ∈ model.operationErrors operation := by
  simp only [operationErrors, Operation.gatherErrors, List.mem_append]
  rcases h with hresult | ⟨parameter, hparameter, hmem⟩
  · exact .inr hresult
  · exact .inl (.inr (mem_parameterErrors hparameter hmem []))

theorem mem_containerErrors {container : Container}
    (h : (∃ source ∈ container.entitySets ++ container.singletons,
        error ∈ model.sourceErrors source) ∨
      ∃ imp ∈ container.imports, error ∈ model.importErrors imp) :
    error ∈ model.containerErrors container := by
  simp only [containerErrors, Container.gatherErrors]
  rcases h with hsource | himport
  · exact List.mem_append_left _ (List.mem_append_right _ (List.mem_flatMap.2 hsource))
  · exact List.mem_append_right _ (List.mem_flatMap.2 himport)

theorem mem_termErrors {term : Term} (h : error ∈ (term.referenceIn (some model)).errors) :
    error ∈ model.termErrors term := by
  rw [termErrors, Term.gatherErrors]
  exact List.mem_append_left _ (List.mem_append_right _ h)

/-- The problems of an operation that is mentioned are those of the expression around it. -/
theorem mem_errorsIn_of_mentions {expression : Declared.Expression} {way : List Nat}
    {name : String} {location : Location} (hmention : expression.Mentions way name location)
    (h : error ∈ (Declared.Expression.operationIn (some model) name location).errors) :
    error ∈ expression.errorsIn (some model) := by
  induction hmention with
  | here => exact h
  | @inside items place _ position item _ _ hitem _ ih =>
      have hmem : ∀ items : List Declared.Expression, item ∈ items →
          error ∈ Declared.Expression.itemErrorsIn (some model) items := by
        intro items hitems
        induction items with
        | nil => contradiction
        | cons first rest ihitems =>
            rw [Declared.Expression.itemErrorsIn, List.mem_append]
            rcases List.mem_cons.1 hitems with rfl | hrest
            · exact .inl (ih h)
            · exact .inr (ihitems hrest)
      exact hmem items (List.mem_of_getElem? hitem)

/-! ### References that lead astray -/

/-- A reference to an element that is not a type leads to an element, or to a placeholder that
carries all problems met. -/
theorem follow_resolveIn (hindexed : model.Indexed) {name : String} {kind : ElementKind}
    {location : Location} {select : Element → Bool} {problem : Problem} {placeholder : Placeholder}
    {asked : String} {askedKind : ElementKind} {place : Location}
    (h : Placeholder.ofElement? (ElementReference.follow (some model) asked askedKind place
      (ElementReference.resolveIn (some model) name kind location select problem).value) =
        some placeholder) :
    placeholder.errors =
      (ElementReference.resolveIn (some model) name kind location select problem).errors := by
  simp only [ElementReference.resolveIn] at h ⊢
  cases hfound : (model.find name).find? select with
  | some element =>
      have hmem : element ∈ model.find name := List.mem_of_find?_eq_some hfound
      have helement : model.element? element.id = some element := hindexed.element?_of_mem_find hmem
      rw [hfound] at h
      simp [ElementReference.follow, Resolved.clean, helement, Placeholder.ofElement?] at h
  | none =>
      rw [hfound] at h
      obtain rfl := Option.some.inj h
      rfl

theorem reported_of_base {type : StructuredType} {placeholder : Placeholder}
    (htype : .structured type ∈ model.elements)
    (h : (Reference.base type).placeholder? model = some placeholder) :
    ∀ error ∈ placeholder.errors, error ∈ model.validate := by
  cases hbase : type.decl.baseType with
  | none =>
      simp [Reference.placeholder?, baseType?, StructuredType.baseReferenceIn, hbase,
        Resolved.clean] at h
  | some name =>
      have hreports := model.resolveStructured_reports name type.kind type.decl.location .plain
      simp only [Reference.placeholder?, baseType?, StructuredType.baseReferenceIn, hbase] at h
      intro error hmem
      refine mem_validate_of_element htype (mem_structuredErrors (.inl ?_))
      rw [StructuredType.baseReferenceIn, hbase]
      exact hreports.carried placeholder h ▸ hmem

theorem reported_of_result {operation : Operation} {placeholder : Placeholder}
    (hoperation : .operation operation ∈ model.elements)
    (h : (Reference.result operation).placeholder? model = some placeholder) :
    ∀ error ∈ placeholder.errors, error ∈ model.validate := by
  cases hresult : operation.decl.returnType with
  | none =>
      simp [Reference.placeholder?, resultType?, Operation.resultReferenceIn, hresult,
        Resolved.clean] at h
  | some result =>
      have hreports := model.resolve_reports result.typeName operation.decl.location
      simp only [Reference.placeholder?, resultType?, Operation.resultReferenceIn, hresult] at h
      intro error hmem
      refine mem_validate_of_element hoperation (mem_operationErrors (.inl ?_))
      rw [Operation.resultReferenceIn, hresult]
      exact hreports.carried placeholder h ▸ hmem

theorem reported_of_source {container : Container} {source : DeclaredSource}
    {placeholder : Placeholder} (hcontainer : .container container ∈ model.elements)
    (hsource : source ∈ container.entitySets ++ container.singletons)
    (h : (Reference.source source).placeholder? model = some placeholder) :
    ∀ error ∈ placeholder.errors, error ∈ model.validate := by
  have hreports := model.resolveStructured_reports source.typeName .entity source.location .plain
  -- The type of an entity set is a collection, with the placeholder of its items.
  have hentity : ((source.referenceIn (some model)).value.follow (some model)).placeholder? =
      some placeholder := by
    rw [← h]
    simp only [Reference.placeholder?, sourceType, DeclaredSource.typeWith]
    split <;> rfl
  intro error hmem
  refine mem_validate_of_element hcontainer (mem_containerErrors (.inl ⟨source, hsource, ?_⟩))
  exact List.mem_append_left _ (hreports.carried placeholder hentity ▸ hmem)

/-- All problems of a placeholder that a reference of the model leads to are reported. -/
theorem reported_of_placeholder (hindexed : model.Indexed) {reference : Reference}
    {placeholder : Placeholder} (hreference : reference.IsOf model)
    (h : reference.placeholder? model = some placeholder) :
    ∀ error ∈ placeholder.errors, error ∈ model.validate := by
  intro error hmem
  cases hreference with
  | @property type property htype hproperty =>
      rw [(model.property_reports property).carried placeholder h] at hmem
      refine mem_validate_of_element htype ?_
      exact mem_structuredErrors (.inr ⟨property, hproperty, hmem⟩)
  | base htype => exact reported_of_base htype h error hmem
  | @parameter operation parameter hoperation hparameter =>
      rw [(model.resolve_reports _ _).carried placeholder h] at hmem
      refine mem_validate_of_element hoperation ?_
      exact mem_operationErrors (.inr ⟨parameter, hparameter, hmem⟩)
  | result hoperation => exact reported_of_result hoperation h error hmem
  | source hcontainer hsource => exact reported_of_source hcontainer hsource h error hmem
  | @term term hterm =>
      rw [(model.resolve_reports _ _).carried placeholder h] at hmem
      exact mem_validate_of_element hterm (mem_termErrors hmem)
  | @applied note hnote =>
      rw [follow_resolveIn hindexed h] at hmem
      exact mem_validate_of_annotation hnote (List.mem_append_left _ hmem)
  | @mentioned note way name location hnote hmention =>
      rw [follow_resolveIn hindexed h] at hmem
      refine mem_validate_of_annotation hnote ?_
      exact List.mem_append_right _ (mem_errorsIn_of_mentions hmention hmem)

/-! ### Bindings and imports -/

/-- A binding without a target is a problem of its source. -/
theorem unknownTarget_reported {container : Container} {source : DeclaredSource}
    {binding : Declared.Binding} (hcontainer : .container container ∈ model.elements)
    (hsource : source ∈ container.entitySets ++ container.singletons)
    (hbinding : binding ∈ source.bindings)
    (h : model.bindingTarget? source.container binding.target = none) :
    ⟨source.location, .unknownTarget binding.path source.name binding.target⟩ ∈ model.validate := by
  refine mem_validate_of_element hcontainer (mem_containerErrors (.inl ⟨source, hsource, ?_⟩))
  refine List.mem_append_right _ (List.mem_map.2 ⟨binding, List.mem_filter.2 ⟨hbinding, ?_⟩, rfl⟩)
  exact Option.isNone_iff_eq_none.2 h

theorem mem_importedOperations (hindexed : model.Indexed) {imp : OperationImport}
    {operation : Operation} (hfound : operation ∈ model.findOperations imp.operationName)
    (hkind : operation.kind = imp.kind) (hunbound : operation.decl.isBound = false) :
    operation ∈ model.importedOperations imp := by
  have hid := hindexed.element?_of_mem_find (mem_filterMap_operation?.1 hfound)
  refine List.mem_filterMap.2 ⟨operation.id, List.mem_map.2 ⟨operation, ?_, rfl⟩, ?_⟩
  · refine List.mem_filter.2 ⟨List.mem_filter.2 ⟨hfound, decide_eq_true hkind⟩, ?_⟩
    simp [OperationImport.accepts, hkind, hunbound]
  · rw [show model.element? operation.id = some (.operation operation) from hid]
    rfl

/-- An import without an operation has a problem: there is no operation of its name and kind, or
each of them is bound. -/
theorem exists_importError (hindexed : model.Indexed) {imp : OperationImport}
    (h : model.importedOperations imp = []) :
    ⟨imp.location, .unknownImport imp.name imp.operationName⟩ ∈ model.importErrors imp ∨
      ⟨imp.location, .boundImport imp.name imp.operationName⟩ ∈ model.importErrors imp := by
  simp only [importErrors, OperationImport.operationsIn, OperationImport.resolveOperations,
    List.mem_append]
  generalize hgroup : ((model.findOperations imp.operationName).filter fun operation =>
    decide (operation.kind = imp.kind)) = group
  cases group with
  | nil => exact .inl (.inl (List.mem_singleton_self _))
  | cons operation others =>
      have hmem : operation ∈ operation :: others := List.mem_cons_self
      rw [← hgroup] at hmem
      obtain ⟨hfound, hkind⟩ := List.mem_filter.1 hmem
      cases hbound : operation.decl.isBound with
      | true =>
          refine .inr (.inl (List.mem_map.2 ⟨operation, ?_, rfl⟩))
          exact List.mem_filter.2 ⟨List.mem_cons_self, hbound⟩
      | false =>
          have := mem_importedOperations hindexed hfound (by simpa using hkind) hbound
          rw [h] at this
          contradiction

/-- An import of an entity set that does not exist has a problem. -/
theorem unknownImportSet_mem {imp : OperationImport} {name : String}
    (hset : imp.entitySet = some name) (h : model.importedSet? imp = none) :
    ⟨imp.location, .unknownImportSet imp.name name⟩ ∈ model.importErrors imp := by
  refine List.mem_append_right _ ?_
  rw [OperationImport.entitySetErrors, hset]
  show _ ∈ if (model.importedSet? imp).isSome = true then _ else _
  rw [h]
  exact List.mem_singleton_self _

theorem importError_reported {container : Container} {imp : OperationImport}
    (hcontainer : .container container ∈ model.elements) (himp : imp ∈ container.imports)
    (h : error ∈ model.importErrors imp) : error ∈ model.validate := by
  refine mem_validate_of_element hcontainer ?_
  exact mem_containerErrors (.inr ⟨imp, himp, h⟩)

/-- Whatever has been read before, validation reports all problems that the placeholders of a model
carry, every binding without a target, and every import without operations or of an entity set that
does not exist.  Where it reports nothing, no reference leads to a placeholder. -/
theorem validate_reports_dangling (description : Declared.Description) (session other : Session)
    (hsession : Session.Live (ofDescription description) session)
    (hother : Session.Live (ofDescription description) other) :
    (∀ reference : Reference, reference.IsOf (ofDescription description) →
      ∀ placeholder, (reference.read.run other).1 = some placeholder →
        ∀ error ∈ placeholder.errors, error ∈ (Session.validate.run session).1) ∧
    (∀ container, .container container ∈ (ofDescription description).elements →
      ∀ source ∈ container.entitySets ++ container.singletons, ∀ binding ∈ source.bindings,
        (ofDescription description).bindingTarget? source.container binding.target = none →
        ⟨source.location, .unknownTarget binding.path source.name binding.target⟩ ∈
          (Session.validate.run session).1) ∧
    (∀ container, .container container ∈ (ofDescription description).elements →
      ∀ imp ∈ container.imports, ((Session.importedOperations imp).run other).1 = [] →
        ⟨imp.location, .unknownImport imp.name imp.operationName⟩ ∈
            (Session.validate.run session).1 ∨
          ⟨imp.location, .boundImport imp.name imp.operationName⟩ ∈
            (Session.validate.run session).1) ∧
    (∀ container, .container container ∈ (ofDescription description).elements →
      ∀ imp ∈ container.imports, ∀ name, imp.entitySet = some name →
        ((Session.importedSet? imp).run other).1 = none →
        ⟨imp.location, .unknownImportSet imp.name name⟩ ∈ (Session.validate.run session).1) ∧
    ((Session.validate.run session).1 = [] →
      ∀ reference : Reference, reference.IsOf (ofDescription description) →
        (reference.read.run other).1 = none) := by
  have hindexed := indexed_ofDescription description
  rw [(Session.gives_validate session hsession).1]
  refine ⟨?_, ?_, ?_, ?_, ?_⟩
  · intro reference hreference placeholder h
    rw [(reference.gives_read other hother).1] at h
    exact reported_of_placeholder hindexed hreference h
  · intro container hcontainer source hsource binding hbinding h
    exact unknownTarget_reported hcontainer hsource hbinding h
  · intro container hcontainer imp himp h
    rw [(Session.gives_importedOperations imp other hother).1] at h
    exact (exists_importError hindexed h).imp (importError_reported hcontainer himp)
      (importError_reported hcontainer himp)
  · intro container hcontainer imp himp name hset h
    rw [(Session.gives_importedSet? imp other hother).1] at h
    exact importError_reported hcontainer himp (unknownImportSet_mem hset h)
  · intro hnone reference hreference
    rw [(reference.gives_read other hother).1]
    cases h : reference.placeholder? (ofDescription description) with
    | none => rfl
    | some placeholder =>
        -- A placeholder is never without problems.
        obtain ⟨error, hmem⟩ := List.exists_mem_of_ne_nil _ placeholder.errors_ne_nil
        have := reported_of_placeholder hindexed hreference h error hmem
        rw [hnone] at this
        contradiction

/-- A thing with a property of a type that does not exist. -/
def danglingThing : Declared.StructuredType where
  name := "Thing"
  properties := [{ name := "Size", typeName := "N.Missing" }]

/-- A container with a binding and an import that lead nowhere. -/
def danglingContainer : Declared.Container where
  name := "Default"
  entitySets := [{
    name := "Things", entityType := "N.Thing"
    bindings := [{ path := "Owner", target := "Owners" }] }]
  functionImports := [{ name := "Find", function := "N.Find", entitySet := some "Finds" }]

/-- A description in which the type of a property, a binding and an import lead nowhere. -/
def dangling : Declared.Description where
  schemas := [{
    namespaceName := "N", entityTypes := [danglingThing], containers := [danglingContainer] }]

theorem validate_reports_dangling_thing :
    (∃ reference : Reference, reference.IsOf (ofDescription dangling) ∧
      ∃ placeholder, (reference.read.run (Session.start (ofDescription dangling))).1 =
          some placeholder ∧
        ∀ error ∈ placeholder.errors,
          error ∈ (Session.validate.run (Session.start (ofDescription dangling))).1) ∧
      ⟨{}, .unknownTarget "Owner" "Things" "Owners"⟩ ∈
        (Session.validate.run (Session.start (ofDescription dangling))).1 ∧
      (⟨{}, .unknownImport "Find" "N.Find"⟩ ∈
          (Session.validate.run (Session.start (ofDescription dangling))).1 ∨
        ⟨{}, .boundImport "Find" "N.Find"⟩ ∈
          (Session.validate.run (Session.start (ofDescription dangling))).1) ∧
      ⟨{}, .unknownImportSet "Find" "Finds"⟩ ∈
        (Session.validate.run (Session.start (ofDescription dangling))).1 := by
  have hlive := Session.live_start (ofDescription dangling)
  obtain ⟨hreference, hbinding, himport, hset, -⟩ :=
    validate_reports_dangling dangling _ _ hlive hlive
  let type : StructuredType := ⟨0, "N", .entity, danglingThing⟩
  let container : Container := ⟨1, "N", danglingContainer⟩
  have htype : .structured type ∈ (ofDescription dangling).elements := by decide +kernel
  have hcontainer : .container container ∈ (ofDescription dangling).elements := by decide +kernel
  let imp : OperationImport := ⟨1, 0, .function, "Find", "N.Find", some "Finds", false, {}⟩
  have himp : imp ∈ container.imports := by decide +kernel
  refine ⟨?_, ?_, ?_, ?_⟩
  · let property : Property := .structural ⟨0, 0, { name := "Size", typeName := "N.Missing" }⟩
    have hproperty : property ∈ type.declaredProperties := by decide +kernel
    have hbad : ((Reference.property property).read.run
        (Session.start (ofDescription dangling))).1.isSome = true := by decide +kernel
    obtain ⟨placeholder, hplaceholder⟩ := Option.isSome_iff_exists.1 hbad
    have hisOf : (Reference.property property).IsOf (ofDescription dangling) :=
      .property htype hproperty
    exact ⟨_, hisOf, placeholder, hplaceholder, hreference _ hisOf _ hplaceholder⟩
  · let source : DeclaredSource :=
      ⟨1, .entitySet, 0, "Things", "N.Thing", [⟨"Owner", "Owners"⟩], true, {}⟩
    have hsource : source ∈ container.entitySets ++ container.singletons := by decide +kernel
    exact hbinding container hcontainer source hsource ⟨"Owner", "Owners"⟩ (by decide)
      (by decide +kernel)
  · exact himport container hcontainer imp himp (by decide +kernel)
  · exact hset container hcontainer imp himp "Finds" rfl (by decide +kernel)

end Model
end ResourcePaths

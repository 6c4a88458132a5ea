import ResourcePaths.Proofs.Session.Growth

/-!
# Remembered answers

While the model lives, it does not show that a session remembers.  Every cell that a session has
filled holds what the model derives, so that each reading gives the answer of the model, whatever
has been read before, and leaves a session of which the same is true.
-/

namespace ResourcePaths

/-- What the model derives for a cell. -/
def Cell.derive (model : Model) : (cell : Cell) → cell.Value
  | base type => type.baseReferenceIn (some model)
  | properties type => model.properties type
  | propertyType property => property.referenceIn (some model)
  | parameterType parameter => parameter.referenceIn (some model)
  | resultType operation => operation.resultReferenceIn (some model)
  | sourceEntity source => source.referenceIn (some model)
  | bindings source => source.bindingsIn (some model)
  | sourceErrors source => model.sourceErrors source
  | imported imp => imp.operationsIn (some model)
  | importErrors imp => model.importErrors imp
  | termType term => term.referenceIn (some model)
  | termDefault term => model.termDefault? term
  | elementErrors element => model.elementErrors element
  | appliedTerm note => note.termIn (some model)
  | referencedOperation _ _ name location => Declared.Expression.operationIn (some model) name location
  | annotationErrors note => model.annotationErrors note

namespace Session

/-- A session whose model lives, and whose filled cells hold what the model derives. -/
structure Live (model : Model) (session : Session) : Prop where
  model_eq : session.model = some model
  derived : ∀ cell value, session.memory.find? cell = some value → value = cell.derive model

/-- A reading that gives a value in every live session, and leaves it live. -/
def Gives (model : Model) {α : Type} (reading : Reading α) (value : α) : Prop :=
  ∀ session, Live model session →
    (reading.run session).1 = value ∧ Live model (reading.run session).2

variable {model : Model} {α β : Type}

theorem live_start (model : Model) : Live model (start model) := by
  refine ⟨rfl, fun cell value h => ?_⟩
  contradiction

/-- Filling a cell with what the model derives keeps a session live. -/
theorem Live.fill {session : Session} (h : Live model session) (cell : Cell) :
    Live model { session with memory := ⟨cell, cell.derive model⟩ :: session.memory } := by
  refine ⟨h.model_eq, fun other value hfound => ?_⟩
  -- The cell itself is found first; any other cell is found as before.
  by_cases hcell : cell = other
  · subst hcell
    rw [Memory.find?_cons_self] at hfound
    exact (Option.some.inj hfound).symm
  · rw [Memory.find?_cons_of_ne _ _ hcell] at hfound
    exact h.derived other value hfound

/-! ### Readings -/

theorem gives_pure (value : α) : Gives model (pure value) value :=
  givesIn_pure value

theorem Gives.bind {reading : Reading α} {value : α} {next : α → Reading β} {result : β}
    (h : Gives model reading value) (hnext : Gives model (next value) result) :
    Gives model (reading >>= next) result :=
  GivesIn.bind h hnext

theorem Gives.map {reading : Reading α} {value : α} (h : Gives model reading value) (f : α → β) :
    Gives model (do return f (← reading)) (f value) :=
  GivesIn.map h f

theorem gives_context : Gives model context (some model) :=
  fun _ hlive => ⟨hlive.model_eq, hlive⟩

/-- A cell gives what its derivation gives, provided that this is what the model derives. -/
theorem gives_remember {cell : Cell} {derive : Reading cell.Value}
    (h : Gives model derive (cell.derive model)) :
    Gives model (remember cell derive) (cell.derive model) := by
  intro session hlive
  cases hfound : session.memory.find? cell with
  | some value =>
      rw [run_remember_of_filled hfound]
      exact ⟨hlive.derived cell value hfound, hlive⟩
  | none =>
      obtain ⟨hvalue, hderived⟩ := h session hlive
      rw [run_remember_of_empty hfound, hvalue]
      exact ⟨rfl, hderived.fill cell⟩

theorem gives_rememberIn {cell : Cell} {derive : Option Model → cell.Value}
    (h : derive (some model) = cell.derive model) :
    Gives model (rememberIn cell derive) (cell.derive model) :=
  gives_remember (h ▸ gives_context.map derive)

theorem gives_follow (reference : TypeReference) :
    Gives model (follow reference) (reference.follow (some model)) :=
  gives_context.map _

theorem gives_flatMapM {f : α → Reading (List β)} {g : α → List β} {items : List α}
    (h : ∀ item ∈ items, Gives model (f item) (g item)) :
    Gives model (items.flatMapM f) (items.flatMap g) :=
  givesIn_flatMapM h

/-! ### Structured types -/

theorem gives_baseReference (type : StructuredType) :
    Gives model (baseReference type) (type.baseReferenceIn (some model)) :=
  gives_rememberIn rfl

theorem gives_baseType? (type : StructuredType) :
    Gives model (baseType? type) (model.baseType? type) :=
  (gives_baseReference type).bind (gives_context.bind (gives_pure _))

theorem gives_baseStructured? (type : StructuredType) :
    Gives model (baseStructured? type) (model.baseStructured? type) :=
  (gives_baseType? type).map _

theorem gives_climb (unmet : List ElementId) (start : Option StructuredType) :
    Gives model (climb unmet start) (model.climb unmet start) := by
  fun_induction Model.climb model unmet start with
  | case1 unmet =>
      rw [climb]
      exact gives_pure _
  | case2 unmet type hunmet rest cyclic hrest ih =>
      rw [climb, if_pos hunmet]
      rw [hrest] at ih
      exact (gives_baseStructured? type).bind (ih.bind (gives_pure _))
  | case3 unmet type hmet =>
      rw [climb, if_neg hmet]
      exact gives_pure _

theorem gives_walk (type : StructuredType) : Gives model (walk type) (model.walk type) :=
  (gives_baseStructured? type).bind (gives_context.bind (gives_climb _ _))

theorem gives_ancestors (type : StructuredType) :
    Gives model (ancestors type) (model.ancestors type) :=
  (gives_walk type).map _

theorem gives_isOpenStructured (type : StructuredType) :
    Gives model (isOpenStructured type) (model.isOpenStructured type) := by
  rw [isOpenStructured, Model.isOpenStructured]
  cases type.decl.isOpen with
  | true => exact gives_pure true
  | false => exact (gives_ancestors type).map _

theorem gives_inherits (type other : StructuredType) :
    Gives model (inherits type other) (model.inherits type other) := by
  rw [inherits, Model.inherits]
  by_cases hid : type.id = other.id
  · simp only [hid, if_true, decide_true, Bool.true_or]
    exact gives_pure true
  · simp only [hid, if_false, decide_false, Bool.false_or]
    exact (gives_ancestors type).map _

theorem gives_properties (type : StructuredType) :
    Gives model (properties type) (model.properties type) :=
  gives_remember ((gives_ancestors type).map _)

theorem gives_findProperty? (type : StructuredType) (name : String) (ignoreCase : Bool) :
    Gives model (findProperty? type name ignoreCase) (model.findProperty? type name ignoreCase) :=
  (gives_properties type).map _

theorem gives_keyNames? (type : StructuredType) :
    Gives model (keyNames? type) (model.keyNames? type) := by
  rw [keyNames?, Model.keyNames?]
  cases hkey : type.decl.key with
  | some names =>
      rw [StructuredType.gatherKeyNames, hkey]
      exact gives_pure _
  | none => exact (gives_ancestors type).map _

theorem gives_key (type : StructuredType) : Gives model (key type) (model.key type) := by
  refine (gives_keyNames? type).bind ?_
  unfold Model.key
  cases (model.keyNames? type).getD [] with
  | nil => exact gives_pure _
  | cons name names => exact (gives_properties type).map _

theorem gives_propertyReference (property : Property) :
    Gives model (propertyReference property) (property.referenceIn (some model)) :=
  gives_rememberIn rfl

theorem gives_typeOf (property : Property) :
    Gives model (typeOf property) (model.typeOf property) :=
  (gives_propertyReference property).bind (gives_follow _)

theorem gives_propertyErrors (property : Property) :
    Gives model (propertyErrors property) (model.propertyErrors property) :=
  (gives_propertyReference property).map _

theorem gives_targetEntity? (property : NavigationProperty) :
    Gives model (targetEntity? property) (model.targetEntity? property) :=
  (gives_typeOf (.navigation property)).map _

theorem gives_partner? (property : NavigationProperty) :
    Gives model (partner? property) (model.partner? property) := by
  rw [partner?, Model.partner?]
  cases property.decl.partner with
  | none => exact gives_pure none
  | some name =>
      refine (gives_targetEntity? property).bind ?_
      cases model.targetEntity? property with
      | none => exact gives_pure none
      | some target => exact (gives_findProperty? target name false).map _

theorem gives_structuredErrors (type : StructuredType) :
    Gives model (structuredErrors type) (model.structuredErrors type) :=
  gives_remember <| (gives_baseReference type).bind <| gives_context.bind <|
    (gives_walk type).bind <| (gives_properties type).bind <|
    (gives_flatMapM fun property _ => gives_propertyErrors property).bind <|
    (gives_keyNames? type).bind <| gives_pure _

theorem gives_isOpen (type : ModelType) : Gives model (isOpen type) (model.isOpen type) := by
  cases type with
  | structured type => exact gives_isOpenStructured type
  | primitive | enum | definition | collection | untyped | bad => exact gives_pure _

theorem gives_isAssignable (target source : ModelType) :
    Gives model (isAssignable target source) (model.isAssignable target source) := by
  fun_induction Model.isAssignable model target source with
  | case5 target source =>
      rw [isAssignable]
      by_cases hkind : target.kind = source.kind
      · simp only [hkind, if_true, decide_true, Bool.true_and]
        exact gives_inherits source target
      · simp only [hkind, if_false, decide_false, Bool.false_and]
        exact gives_pure false
  | case8 target source ih => exact ih
  | case1 | case2 | case3 | case4 | case6 | case7 | case9 =>
      rw [isAssignable]
      · exact gives_pure _
      all_goals assumption

/-! ### Navigation sources -/

theorem gives_sourceReference (source : DeclaredSource) :
    Gives model (sourceReference source) (source.referenceIn (some model)) :=
  gives_rememberIn rfl

theorem gives_bindings (source : DeclaredSource) :
    Gives model (bindings source) (source.bindingsIn (some model)) :=
  gives_rememberIn rfl

theorem gives_sourceEntity? (source : NavigationSource) :
    Gives model (sourceEntity? source) (model.sourceEntity? source) := by
  cases source with
  | declared source => exact (gives_sourceReference source).bind ((gives_follow _).map _)
  | unknown parent property => exact gives_targetEntity? property

theorem gives_sourceType (source : NavigationSource) :
    Gives model (sourceType source) (model.sourceType source) := by
  cases source with
  | declared source => exact (gives_sourceReference source).bind ((gives_follow _).map _)
  | unknown parent property => exact gives_typeOf (.navigation property)

theorem gives_navigationTarget? (source : NavigationSource) (property : NavigationProperty) :
    Gives model (navigationTarget? source property) (model.navigationTarget? source property) := by
  cases source with
  | declared source => exact (gives_bindings source).bind (gives_context.map _)
  | unknown parent property => exact gives_pure none

theorem gives_sourceErrors (source : DeclaredSource) :
    Gives model (sourceErrors source) (model.sourceErrors source) :=
  gives_remember ((gives_sourceReference source).bind ((gives_bindings source).bind (gives_pure _)))

/-! ### Operations -/

theorem gives_parameterReference (parameter : Parameter) :
    Gives model (parameterReference parameter) (parameter.referenceIn (some model)) :=
  gives_rememberIn rfl

theorem gives_parameterType (parameter : Parameter) :
    Gives model (parameterType parameter) (model.parameterType parameter) :=
  (gives_parameterReference parameter).bind (gives_follow _)

theorem gives_resultReference (operation : Operation) :
    Gives model (resultReference operation) (operation.resultReferenceIn (some model)) :=
  gives_rememberIn rfl

theorem gives_resultType? (operation : Operation) :
    Gives model (resultType? operation) (model.resultType? operation) :=
  (gives_resultReference operation).bind (gives_context.bind (gives_pure _))

theorem gives_isBoundTo (type : ModelType) (operation : Operation) :
    Gives model (isBoundTo type operation) (model.isBoundTo type operation) := by
  rw [isBoundTo, Model.isBoundTo]
  cases operation.bindingParameter? with
  | none => exact gives_pure false
  | some parameter => exact (gives_parameterType parameter).bind (gives_isAssignable _ _)

theorem gives_findBoundOperations (type : ModelType) :
    Gives model (findBoundOperations type) (model.findBoundOperations type) := by
  have hfilter : model.findBoundOperations type =
      model.operations.flatMap fun operation =>
        if model.isBoundTo type operation then [operation] else [] := by
    unfold Model.findBoundOperations
    induction model.operations with
    | nil => rfl
    | cons operation rest ih =>
        rw [List.filter_cons, List.flatMap_cons, ← ih]
        split <;> rfl
  rw [hfilter]
  exact gives_context.bind (gives_flatMapM fun operation _ => (gives_isBoundTo type operation).map _)

theorem gives_parameterErrors (operation : Operation) (seen : List String)
    (parameters : List Parameter) :
    Gives model (parameterErrors operation seen parameters)
      (operation.parameterErrors (fun parameter => (parameter.referenceIn (some model)).errors) seen
        parameters) := by
  induction parameters generalizing seen with
  | nil => exact gives_pure []
  | cons parameter rest ih =>
      exact (gives_parameterReference parameter).bind ((ih _).map _)

theorem gives_operationErrors (operation : Operation) :
    Gives model (operationErrors operation) (model.operationErrors operation) :=
  gives_remember <| gives_context.bind <| (gives_parameterErrors operation [] _).bind <|
    (gives_resultReference operation).bind <| gives_pure _

theorem gives_importedReferences (imp : OperationImport) :
    Gives model (importedReferences imp) (imp.operationsIn (some model)) :=
  gives_rememberIn rfl

theorem gives_importedOperations (imp : OperationImport) :
    Gives model (importedOperations imp) (model.importedOperations imp) :=
  gives_context.bind ((gives_importedReferences imp).map _)

theorem gives_importedSet? (imp : OperationImport) :
    Gives model (importedSet? imp) (model.importedSet? imp) :=
  gives_context.map _

theorem gives_importErrors (imp : OperationImport) :
    Gives model (importErrors imp) (model.importErrors imp) :=
  gives_remember ((gives_importedReferences imp).bind (gives_context.map _))

theorem gives_containerErrors (container : Container) :
    Gives model (containerErrors container) (model.containerErrors container) :=
  gives_remember <| gives_context.bind <|
    (gives_flatMapM fun source _ => gives_sourceErrors source).bind <|
    (gives_flatMapM fun imp _ => gives_importErrors imp).bind <| gives_pure _

/-! ### Terms and annotations -/

theorem gives_termReference (term : Term) :
    Gives model (termReference term) (term.referenceIn (some model)) :=
  gives_rememberIn rfl

theorem gives_termType (term : Term) : Gives model (termType term) (model.termType term) :=
  (gives_termReference term).bind (gives_follow _)

theorem gives_termDefault? (term : Term) :
    Gives model (termDefault? term) (model.termDefault? term) := by
  refine gives_remember ?_
  show Gives model _ (model.termDefault? term)
  unfold Model.termDefault?
  cases hdefault : term.decl.defaultValue with
  | some text => exact (gives_termType term).map _
  | none =>
      rw [Term.defaultWith, hdefault]
      exact gives_pure none

theorem gives_termErrors (term : Term) :
    Gives model (termErrors term) (model.termErrors term) :=
  gives_remember <| gives_context.bind <| (gives_termReference term).bind <|
    (gives_termDefault? term).bind <| gives_pure _

theorem gives_termOf (note : Annotation) :
    Gives model (termOf note) (note.termIn (some model)) :=
  gives_rememberIn rfl

theorem gives_appliedTerm (note : Annotation) :
    Gives model (appliedTerm note) (model.appliedTerm note) :=
  (gives_termOf note).bind (gives_context.map _)

theorem gives_operationOf (note : Annotation) (way : List Nat) (name : String)
    (location : Declared.Location) :
    Gives model (operationOf note way name location)
      (Declared.Expression.operationIn (some model) name location) :=
  gives_rememberIn rfl

theorem gives_referencedOperation (note : Annotation) (way : List Nat) (name : String)
    (location : Declared.Location) :
    Gives model (referencedOperation note way name location)
      (model.referencedOperation name location) :=
  (gives_operationOf note way name location).bind (gives_context.map _)

mutual

theorem gives_expressionErrors (note : Annotation) (way : List Nat) :
    (expression : Declared.Expression) → Gives model (expressionErrors note way expression)
      (expression.errorsIn (some model))
  | .constant _ => gives_pure _
  | .path _ _ => gives_pure _
  | .operationReference name location => (gives_operationOf note way name location).map _
  | .collection items _ => gives_itemErrors note way 0 items
  | .null _ => gives_pure _

theorem gives_itemErrors (note : Annotation) (way : List Nat) (position : Nat) :
    (items : List Declared.Expression) → Gives model (itemErrors note way position items)
      (Declared.Expression.itemErrorsIn (some model) items)
  | [] => gives_pure _
  | item :: rest =>
    (gives_expressionErrors note _ item).bind ((gives_itemErrors note way _ rest).map _)

end

theorem gives_annotationErrors (note : Annotation) :
    Gives model (annotationErrors note) (model.annotationErrors note) :=
  gives_remember ((gives_termOf note).bind ((gives_expressionErrors note [] _).map _))

theorem gives_elementErrors (element : Element) :
    Gives model (elementErrors element) (model.elementErrors element) := by
  cases element with
  | structured type => exact gives_structuredErrors type
  | enum type => exact gives_rememberIn rfl
  | definition type => exact gives_rememberIn rfl
  | operation operation => exact gives_operationErrors operation
  | term term => exact gives_termErrors term
  | container container => exact gives_containerErrors container

theorem gives_validate : Gives model validate model.validate :=
  gives_context.bind <| (gives_flatMapM fun element _ => gives_elementErrors element).bind <|
    (gives_flatMapM fun note _ => gives_annotationErrors note).map _

end Session
end ResourcePaths

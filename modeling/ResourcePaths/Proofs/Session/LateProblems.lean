import ResourcePaths.Proofs.Session.Bereft

/-!
# Problems that are read late

What is reported of a node whose problems are first read when the model is gone.  Most checks then
report that the model is gone, or nothing.  Two of them do not tell what they cannot reach from what
is not there: that of keys, which looks for the key of an entity type and its properties in the base
types, and that of imports, which looks for an entity set in the container.  Any other problem is
one that the model has.
-/

namespace ResourcePaths

/-! ### Lists of problems -/

/-- Problems that all say that the model is gone. -/
def Unavailable (errors : List ModelError) : Prop :=
  ∀ error ∈ errors, error.code = .modelUnavailable

/-- Problems none of which is new: each is known, says that the model is gone, or is excused. -/
def NothingNew (known : List ModelError) (excused : ModelError → Prop)
    (errors : List ModelError) : Prop :=
  ∀ error ∈ errors, error ∈ known ∨ error.code = .modelUnavailable ∨ excused error

namespace NothingNew

variable {known others errors further : List ModelError} {excused : ModelError → Prop}

theorem of_subset (h : errors ⊆ known) : NothingNew known excused errors :=
  fun _ hmem => .inl (h hmem)

theorem refl (known : List ModelError) : NothingNew known excused known :=
  of_subset (List.Subset.refl known)

theorem nil (known : List ModelError) : NothingNew known excused [] :=
  of_subset (List.nil_subset known)

theorem of_unavailable (h : Unavailable errors) : NothingNew known excused errors :=
  fun error hmem => .inr (.inl (h error hmem))

theorem imp {allowed : ModelError → Prop} (h : NothingNew known excused errors)
    (hexcused : ∀ error, excused error → allowed error) : NothingNew known allowed errors :=
  fun error hmem => (h error hmem).imp_right fun hnew => hnew.imp_right (hexcused error)

theorem append (hleft : NothingNew known excused errors)
    (hright : NothingNew others excused further) :
    NothingNew (known ++ others) excused (errors ++ further) := by
  intro error hmem
  rcases List.mem_append.1 hmem with hmem | hmem
  · exact (hleft error hmem).imp_left (List.mem_append_left _)
  · exact (hright error hmem).imp_left (List.mem_append_right _)

theorem flatMap {α : Type} {knownOf errorsOf : α → List ModelError} {items : List α}
    (h : ∀ item ∈ items, NothingNew (knownOf item) excused (errorsOf item)) :
    NothingNew (items.flatMap knownOf) excused (items.flatMap errorsOf) := by
  induction items with
  | nil => exact nil _
  | cons item rest ih =>
      obtain ⟨hitem, hrest⟩ := List.forall_mem_cons.1 h
      exact hitem.append (ih hrest)

end NothingNew

/-! ### Derivations without a model -/

theorem StructuredType.unavailable_baseReferenceIn (type : StructuredType) :
    Unavailable (type.baseReferenceIn none).errors := by
  unfold baseReferenceIn
  cases type.decl.baseType with
  | none => exact List.forall_mem_nil _
  | some name => exact List.forall_mem_singleton.2 rfl

theorem Property.unavailable_referenceIn (property : Property) :
    Unavailable (property.referenceIn none).errors := by
  cases property with
  | structural | navigation => exact List.forall_mem_singleton.2 rfl

theorem Operation.unavailable_resultReferenceIn (operation : Operation) :
    Unavailable (operation.resultReferenceIn none).errors := by
  unfold resultReferenceIn
  cases operation.decl.returnType with
  | none => exact List.forall_mem_nil _
  | some result => exact List.forall_mem_singleton.2 rfl

/-- Without a model every entity set of an import is reported. -/
theorem OperationImport.mem_entitySetErrors_none {imp : OperationImport} {error : ModelError} :
    error ∈ imp.entitySetErrors none ↔
      ∃ set, imp.entitySet = some set ∧
        error = ⟨imp.location, .unknownImportSet imp.name set⟩ := by
  rw [entitySetErrors, entitySetIn?, setName?]
  cases imp.entitySet with
  | none => simp
  | some set => simp

/-! ### Constants -/

theorem Term.constantKind_detached (type : ModelType) :
    Term.constantKind type.detached = Term.constantKind type ∨
      Term.constantKind type.detached = .string := by
  cases type with
  | primitive => exact .inl rfl
  | structured | enum | definition | collection | untyped | bad => exact .inr rfl

/-! ### Base types and keys -/

theorem repeatedBy_subset {α : Type} {key : α → String} {seen more : List String}
    (hseen : seen ⊆ more) (items : List α) :
    repeatedBy key seen items ⊆ repeatedBy key more items := by
  induction items generalizing seen more with
  | nil => exact List.Subset.refl _
  | cons item rest ih =>
      simp only [repeatedBy, List.contains_iff_mem]
      by_cases hmem : key item ∈ seen
      · rw [if_pos hmem, if_pos (hseen hmem)]
        exact List.cons_subset_cons _ (ih hseen)
      · rw [if_neg hmem]
        split
        · rename_i hmore
          exact List.subset_cons_of_subset _ (ih (List.cons_subset.2 ⟨hmore, hseen⟩))
        · exact ih (List.cons_subset_cons _ hseen)

/-- What comes again among the last items comes again among all of them. -/
theorem repeatedBy_append_right {α : Type} {key : α → String} (seen : List String)
    (front back : List α) : repeatedBy key seen back ⊆ repeatedBy key seen (front ++ back) := by
  induction front generalizing seen with
  | nil => exact List.Subset.refl _
  | cons item rest ih =>
      rw [List.cons_append, repeatedBy]
      split
      · exact List.subset_cons_of_subset _ (ih seen)
      · exact List.Subset.trans (repeatedBy_subset (List.subset_cons_self _ _) back) (ih _)

/-- A property among the last ones is found before any other of its name. -/
theorem Property.find?_append_of_eq_some {front back : List Property} {name : String}
    {property : Property} (h : Property.find? back name false = some property) :
    Property.find? (front ++ back) name false = some property := by
  simp only [Property.find?, Bool.false_eq_true, if_false] at h ⊢
  rw [List.reverse_append, List.find?_append, h]
  rfl

/-- A name that is not that of a structural property is not that of one declared by the type. -/
theorem StructuredType.own_of_gatherProperties {type : StructuredType}
    {ancestors : List StructuredType} {name : String}
    (h : (Property.find? (type.gatherProperties ancestors) name false).bind
      Property.structural? = none) :
    (Property.find? type.declaredProperties name false).bind Property.structural? = none := by
  cases hown : Property.find? type.declaredProperties name false with
  | none => rfl
  | some property =>
      rw [gatherProperties, Property.find?_append_of_eq_some hown] at h
      exact h

/-- What is wrong with a key: there is none, or one of its names is not that of a structural
property. -/
theorem StructuredType.mem_keyErrors_iff {type : StructuredType} {properties : List Property}
    {keyNames : Option (List String)} {error : ModelError} :
    error ∈ type.keyErrors properties keyNames ↔
      (keyNames = none ∧ type.decl.isAbstract = false ∧
        error = ⟨type.decl.location, .keyMissing type.fullName⟩) ∨
      ∃ names name, keyNames = some names ∧ name ∈ names ∧
        (Property.find? properties name false).bind Property.structural? = none ∧
        error = ⟨type.decl.location, .keyPropertyNotFound name type.fullName⟩ := by
  cases keyNames with
  | none => cases habstract : type.decl.isAbstract <;> simp [keyErrors, habstract]
  | some names =>
      simp only [keyErrors, List.mem_map, List.mem_filter, Option.isNone_iff_eq_none]
      constructor
      · rintro ⟨name, ⟨hname, hfound⟩, rfl⟩
        exact .inr ⟨names, name, rfl, hname, hfound, rfl⟩
      · rintro (⟨hnone, -⟩ | ⟨_, name, ⟨rfl⟩, hname, hfound, rfl⟩)
        · contradiction
        · exact ⟨name, ⟨hname, hfound⟩, rfl⟩

section NoBase

variable {model : Model} {type : StructuredType} (h : type.decl.baseType = none)
include h

theorem Model.walk_of_baseType_eq_none : model.walk type = ([], false) := by
  have hbase : model.baseStructured? type = none := by
    simp [baseStructured?, baseType?, StructuredType.baseReferenceIn, h, Resolved.clean]
  rw [walk, hbase, climb]

theorem Model.properties_of_baseType_eq_none : model.properties type = type.declaredProperties := by
  rw [properties, ancestors, walk_of_baseType_eq_none h]
  rfl

theorem Model.keyNames?_of_baseType_eq_none : model.keyNames? type = type.decl.key := by
  rw [keyNames?, ancestors, walk_of_baseType_eq_none h]
  exact Option.or_none

end NoBase

namespace Session

variable {model : Model} {session : Session} {excused : ModelError → Prop}

/-! ### Problems of parts -/

section Dropped

variable (hlive : Live model session)
include hlive

/-- A cell gives what the model has derived for it, or has not been filled. -/
theorem read_of_dropped (cell : Cell) :
    (cell.read.run session.drop).1 = cell.derive model ∨
      session.drop.memory.find? cell = none := by
  obtain ⟨derive, hread⟩ := exists_read_eq_remember cell
  cases hfound : session.drop.memory.find? cell with
  | some value =>
      rw [hread, run_remember_of_filled hfound]
      exact .inl (hlive.derived cell value hfound)
  | none => exact .inr rfl

/-- The problems in a cell are those that the model has derived for it, or are derived now. -/
theorem nothingNew_of_empty (cell : Cell) (errorsOf : cell.Value → List ModelError)
    {errors : List ModelError}
    (hempty : session.drop.memory.find? cell = none →
      errorsOf (cell.read.run session.drop).1 = errors)
    (h : NothingNew (errorsOf (cell.derive model)) excused errors) :
    NothingNew (errorsOf (cell.derive model)) excused
      (errorsOf (cell.read.run session.drop).1) := by
  rcases read_of_dropped hlive cell with hread | hfound
  · rw [hread]
    exact .refl _
  · rw [hempty hfound]
    exact h

theorem nothingNew_read (cell : Cell) {derive : Option Model → cell.Value}
    (hread : cell.read = rememberIn cell derive) (errorsOf : cell.Value → List ModelError)
    (hgone : Unavailable (errorsOf (derive none))) :
    NothingNew (errorsOf (cell.derive model)) excused
      (errorsOf (cell.read.run session.drop).1) := by
  refine nothingNew_of_empty hlive cell errorsOf (fun hempty => ?_) (.of_unavailable hgone)
  rw [hread, run_rememberIn_of_empty hempty]
  rfl

theorem nothingNew_baseReference (type : StructuredType) :
    NothingNew (type.baseReferenceIn (some model)).errors excused
      ((baseReference type).run session.drop).1.errors :=
  nothingNew_read hlive (.base type) rfl Resolved.errors type.unavailable_baseReferenceIn

theorem nothingNew_propertyErrors (property : Property) :
    NothingNew (model.propertyErrors property) excused
      ((propertyErrors property).run session.drop).1 :=
  nothingNew_read hlive (.propertyType property) rfl Resolved.errors
    property.unavailable_referenceIn

theorem nothingNew_parameterReference (parameter : Parameter) :
    NothingNew (parameter.referenceIn (some model)).errors excused
      ((parameterReference parameter).run session.drop).1.errors :=
  nothingNew_read hlive (.parameterType parameter) rfl Resolved.errors
    (List.forall_mem_singleton.2 rfl)

theorem nothingNew_resultReference (operation : Operation) :
    NothingNew (operation.resultReferenceIn (some model)).errors excused
      ((resultReference operation).run session.drop).1.errors :=
  nothingNew_read hlive (.resultType operation) rfl Resolved.errors
    operation.unavailable_resultReferenceIn

theorem nothingNew_importedReferences (imp : OperationImport) :
    NothingNew (imp.operationsIn (some model)).errors excused
      ((importedReferences imp).run session.drop).1.errors :=
  nothingNew_read hlive (.imported imp) rfl Resolved.errors (List.forall_mem_singleton.2 rfl)

theorem nothingNew_termReference (term : Term) :
    NothingNew (term.referenceIn (some model)).errors excused
      ((termReference term).run session.drop).1.errors :=
  nothingNew_read hlive (.termType term) rfl Resolved.errors (List.forall_mem_singleton.2 rfl)

theorem nothingNew_termOf (note : Annotation) :
    NothingNew (note.termIn (some model)).errors excused
      ((termOf note).run session.drop).1.errors :=
  nothingNew_read hlive (.appliedTerm note) rfl Resolved.errors (List.forall_mem_singleton.2 rfl)

theorem nothingNew_operationOf (note : Annotation) (way : List Nat) (name : String)
    (location : Declared.Location) :
    NothingNew (Declared.Expression.operationIn (some model) name location).errors excused
      ((operationOf note way name location).run session.drop).1.errors :=
  nothingNew_read hlive (.referencedOperation note way name location) rfl Resolved.errors
    (List.forall_mem_singleton.2 rfl)

theorem nothingNew_sourceErrors (source : DeclaredSource) :
    NothingNew (model.sourceErrors source) excused ((sourceErrors source).run session.drop).1 :=
  nothingNew_of_empty hlive (.sourceErrors source) id sourceErrors_of_empty <|
    .append
      (nothingNew_read hlive (.sourceEntity source) rfl Resolved.errors
        (List.forall_mem_singleton.2 rfl))
      (nothingNew_read hlive (.bindings source) rfl Resolved.errors
        (List.forall_mem_singleton.2 rfl))

/-! ### Operations, terms and annotations -/

theorem nothingNew_parameterErrors (operation : Operation) (seen : List String)
    (parameters : List Parameter) :
    NothingNew
      (operation.parameterErrors (fun parameter => (parameter.referenceIn (some model)).errors) seen
        parameters)
      excused
      (operation.parameterErrors
        (fun parameter => ((parameterReference parameter).run session.drop).1.errors) seen
        parameters) := by
  induction parameters generalizing seen with
  | nil => exact .nil _
  | cons parameter rest ih =>
      exact ((NothingNew.refl _).append (nothingNew_parameterReference hlive parameter)).append (ih _)

theorem nothingNew_operationErrors (operation : Operation) :
    NothingNew (model.operationErrors operation) excused
      ((operationErrors operation).run session.drop).1 :=
  nothingNew_of_empty hlive (.elementErrors (.operation operation)) id
    (operationErrors_of_empty rfl) <|
    ((((NothingNew.nil _).append (.refl _)).append (.refl _)).append
      (nothingNew_parameterErrors hlive operation [] _)).append
      (nothingNew_resultReference hlive operation)

/-- A default value is read as before, or as a text. -/
theorem constantKind_termType (term : Term) :
    Term.constantKind ((termType term).run session.drop).1 =
        Term.constantKind (model.termType term) ∨
      Term.constantKind ((termType term).run session.drop).1 = .string := by
  have htype : ((termType term).run session.drop).1 =
      ((termReference term).run session.drop).1.value.follow none :=
    ((steady_termReference term).givesIn.bind ((givesIn_context rfl).map _)).eq
  rw [htype]
  rcases read_of_dropped hlive (.termType term) with hread | hempty
  · have hvalue : ((termReference term).run session.drop).1 = term.referenceIn (some model) := hread
    have hrefers : (term.referenceIn (some model)).value.RefersToTypes model :=
      model.refersToTypes_resolve _ _
    rw [hvalue, TypeReference.follow_none_eq_detached hrefers]
    exact Term.constantKind_detached _
  · rw [termReference, run_rememberIn_of_empty hempty]
    exact .inr rfl

theorem nothingNew_termDefault? (term : Term) :
    NothingNew (((model.termDefault? term).map Declared.Constant.errors).getD []) excused
      ((((termDefault? term).run session.drop).1.map Declared.Constant.errors).getD []) := by
  let errorsOf (initial : Option Declared.Constant) : List ModelError :=
    (initial.map Declared.Constant.errors).getD []
  refine nothingNew_of_empty hlive (.termDefault term) errorsOf
    (fun hempty => congrArg errorsOf (termDefault?_of_empty hempty)) ?_
  show NothingNew (errorsOf (term.defaultWith (model.termType term))) _ _
  rw [Term.defaultWith, Term.defaultWith]
  cases term.decl.defaultValue with
  | none => exact .nil _
  | some text =>
      rcases constantKind_termType hlive term with hkind | hkind
      · rw [hkind]
        exact .refl _
      · -- Every text is a constant of the kind of texts.
        rw [hkind]
        exact .nil _

theorem nothingNew_termErrors (term : Term) :
    NothingNew (model.termErrors term) excused ((termErrors term).run session.drop).1 :=
  nothingNew_of_empty hlive (.elementErrors (.term term)) id (termErrors_of_empty rfl) <|
    ((NothingNew.nil _).append (nothingNew_termReference hlive term)).append
      (nothingNew_termDefault? hlive term)

end Dropped

mutual

theorem nothingNew_expressionErrors (hlive : Live model session) (note : Annotation)
    (way : List Nat) :
    (expression : Declared.Expression) →
      NothingNew (expression.errorsIn (some model)) excused
        ((expressionErrors note way expression).run session.drop).1
  | .constant _ => .refl _
  | .path _ _ => .nil _
  | .operationReference name location => nothingNew_operationOf hlive note way name location
  | .collection items _ => nothingNew_itemErrors hlive note way 0 items
  | .null _ => .nil _

theorem nothingNew_itemErrors (hlive : Live model session) (note : Annotation) (way : List Nat)
    (position : Nat) :
    (items : List Declared.Expression) →
      NothingNew (Declared.Expression.itemErrorsIn (some model) items) excused
        ((itemErrors note way position items).run session.drop).1
  | [] => .nil _
  | item :: rest => by
    have hboth : ((itemErrors note way position (item :: rest)).run session.drop).1 =
        ((expressionErrors note (way ++ [position]) item).run session.drop).1 ++
          ((itemErrors note way (position + 1) rest).run session.drop).1 :=
      ((steady_expressionErrors note _ item).givesIn.bind
        ((steady_itemErrors note way _ rest).givesIn.map _)).eq
    rw [hboth]
    exact (nothingNew_expressionErrors hlive note _ item).append
      (nothingNew_itemErrors hlive note way _ rest)

end

theorem nothingNew_annotationErrors (hlive : Live model session) (note : Annotation) :
    NothingNew (model.annotationErrors note) excused
      ((annotationErrors note).run session.drop).1 :=
  nothingNew_of_empty hlive (.annotationErrors note) id annotationErrors_of_empty <|
    (nothingNew_termOf hlive note).append (nothingNew_expressionErrors hlive note [] _)

/-! ### What cannot be reached -/

/-- The problems that are reported without a model for what cannot be reached: the key and the key
properties of an entity type in its base types, and the entity set of an import in the container. -/
inductive ReportedBlindly : ErrorHolder → ModelError → Prop
  | keyMissing {type : StructuredType} (hkind : type.kind = .entity)
      (hconcrete : type.decl.isAbstract = false) (hkey : type.decl.key = none)
      (hbase : type.decl.baseType ≠ none) :
      ReportedBlindly (.element (.structured type))
        ⟨type.decl.location, .keyMissing type.fullName⟩
  | keyProperty {type : StructuredType} {names : List String} {name : String}
      (hkind : type.kind = .entity) (hkey : type.decl.key = some names) (hname : name ∈ names)
      (hown : (Property.find? type.declaredProperties name false).bind Property.structural? = none)
      (hbase : type.decl.baseType ≠ none) :
      ReportedBlindly (.element (.structured type))
        ⟨type.decl.location, .keyPropertyNotFound name type.fullName⟩
  | importSet {imp : OperationImport} {set : String} (hset : imp.entitySet = some set) :
      ReportedBlindly (.imp imp) ⟨imp.location, .unknownImportSet imp.name set⟩
  | member {container : Container} {imp : OperationImport} {error : ModelError}
      (himport : imp ∈ container.imports) (himp : ReportedBlindly (.imp imp) error) :
      ReportedBlindly (.element (.container container)) error

section Unreached

variable (hlive : Live model session)
include hlive

/-- The properties of a type are those that the model has given, or its own. -/
theorem properties_of_dropped (type : StructuredType) :
    ((properties type).run session.drop).1 = model.properties type ∨
      ((properties type).run session.drop).1 = type.declaredProperties :=
  (read_of_dropped hlive (.properties type)).imp_right (properties_of_empty rfl)

theorem nothingNew_repeatedProperties (type : StructuredType) (report : Property → ModelError) :
    NothingNew ((repeatedBy Property.name [] (model.properties type)).map report) excused
      ((repeatedBy Property.name [] ((properties type).run session.drop).1).map report) := by
  rcases properties_of_dropped hlive type with hproperties | hproperties
  · rw [hproperties]
    exact .refl _
  · rw [hproperties]
    exact .of_subset (List.map_subset _ (repeatedBy_append_right [] _ _))

/-- The key of a type without a base type is checked as before.  That of any other type is checked
without what the base types declare. -/
theorem nothingNew_keyErrors (type : StructuredType) :
    NothingNew
      (if type.kind = .entity && !model.isCyclic type then
        type.keyErrors (model.properties type) (model.keyNames? type) else [])
      (ReportedBlindly (.element (.structured type)))
      (if type.kind = .entity && !false then
        type.keyErrors ((properties type).run session.drop).1 type.decl.key else []) := by
  have hproperties := properties_of_dropped hlive type
  by_cases hkind : type.kind = .entity
  · simp only [hkind, decide_true, Bool.true_and, Bool.not_false, if_true]
    by_cases hbase : type.decl.baseType = none
    · rw [Model.properties_of_baseType_eq_none hbase, or_self] at hproperties
      rw [Model.isCyclic, Model.walk_of_baseType_eq_none hbase, hproperties,
        Model.properties_of_baseType_eq_none hbase, Model.keyNames?_of_baseType_eq_none hbase]
      exact .refl _
    · intro error hmem
      rcases StructuredType.mem_keyErrors_iff.1 hmem with
        ⟨hkey, hconcrete, rfl⟩ | ⟨names, name, hkey, hname, hfound, rfl⟩
      · exact .inr (.inr (.keyMissing hkind hconcrete hkey hbase))
      · refine .inr (.inr (.keyProperty hkind hkey hname ?_ hbase))
        -- Inherited properties may still be remembered, but a name is looked up among those that
        -- the type declares before it is looked up among them.
        rcases hproperties with hproperties | hproperties
        · rw [hproperties] at hfound
          exact StructuredType.own_of_gatherProperties hfound
        · rw [hproperties] at hfound
          exact hfound
  · simp only [hkind, decide_false, Bool.false_and, Bool.false_eq_true, if_false]
    exact .nil _

theorem nothingNew_structuredErrors (type : StructuredType) :
    NothingNew (model.structuredErrors type) (ReportedBlindly (.element (.structured type)))
      ((structuredErrors type).run session.drop).1 :=
  nothingNew_of_empty hlive (.elementErrors (.structured type)) id
    (structuredErrors_of_empty rfl) <|
    (((((nothingNew_baseReference hlive type).append (.nil _)).append (.nil _)).append
      (nothingNew_repeatedProperties hlive type _)).append
      (.flatMap fun property _ => nothingNew_propertyErrors hlive property)).append
      (nothingNew_keyErrors hlive type)

theorem nothingNew_importErrors (imp : OperationImport) :
    NothingNew (model.importErrors imp) (ReportedBlindly (.imp imp))
      ((importErrors imp).run session.drop).1 := by
  refine nothingNew_of_empty hlive (.importErrors imp) id (importErrors_of_empty rfl) <|
    (nothingNew_importedReferences hlive imp).append fun error hmem => ?_
  obtain ⟨set, hset, rfl⟩ := OperationImport.mem_entitySetErrors_none.1 hmem
  exact .inr (.inr (.importSet hset))

theorem nothingNew_containerErrors (container : Container) :
    NothingNew (model.containerErrors container) (ReportedBlindly (.element (.container container)))
      ((containerErrors container).run session.drop).1 :=
  nothingNew_of_empty hlive (.elementErrors (.container container)) id
    (containerErrors_of_empty rfl) <|
    (((NothingNew.nil _).append (.refl _)).append
      (.flatMap fun source _ => nothingNew_sourceErrors hlive source)).append
      (.flatMap fun imp himport =>
        (nothingNew_importErrors hlive imp).imp fun _ => .member himport)

theorem nothingNew_elementErrors (element : Element) :
    NothingNew (model.elementErrors element) (ReportedBlindly (.element element))
      ((elementErrors element).run session.drop).1 := by
  cases element with
  | structured type => exact nothingNew_structuredErrors hlive type
  | enum type =>
      refine nothingNew_of_empty hlive (.elementErrors (.enum type)) id
        (fun hempty => run_rememberIn_of_empty hempty _) ?_
      exact ((NothingNew.nil _).append (.refl _)).append (.refl _)
  | definition type =>
      refine nothingNew_of_empty hlive (.elementErrors (.definition type)) id
        (fun hempty => run_rememberIn_of_empty hempty _) ?_
      exact (NothingNew.nil _).append (.refl _)
  | operation operation => exact nothingNew_operationErrors hlive operation
  | term term => exact nothingNew_termErrors hlive term
  | container container => exact nothingNew_containerErrors hlive container

end Unreached

/-! ### What is reported -/

theorem nothingNew_errors (hlive : Live model session) (holder : ErrorHolder) :
    NothingNew (holder.derive model) (ReportedBlindly holder)
      (holder.read.run session.drop).1 := by
  cases holder with
  | element node => exact nothingNew_elementErrors hlive node
  | property node => exact nothingNew_propertyErrors hlive node
  | parameter node => exact nothingNew_parameterReference hlive node
  | source node => exact nothingNew_sourceErrors hlive node
  | imp node => exact nothingNew_importErrors hlive node
  | annotation note => exact nothingNew_annotationErrors hlive note
  | expression note way node => exact nothingNew_expressionErrors hlive note way node

/-- Where nothing has been read before, all that cannot be reached is reported. -/
theorem mem_answer_of_reportedBlindly (model : Model) (later : List Query) {holder : ErrorHolder}
    {error : ModelError} (h : ReportedBlindly holder error) :
    error ∈ (orphaned model [] later).answer (.errorsOf holder) := by
  rw [answer_orphaned]
  let base := ((start model).after []).drop
  have hmodel : base.model = none := rfl
  have hempty (cell : Cell) : base.memory.find? cell = none := rfl
  show error ∈ (holder.read.run base).1
  induction h with
  | keyMissing hkind hconcrete hkey _ =>
      show _ ∈ ((structuredErrors _).run base).1
      rw [structuredErrors_of_empty hmodel (hempty _)]
      refine List.mem_append_right _ ?_
      rw [hkind]
      exact StructuredType.mem_keyErrors_iff.2 (.inl ⟨hkey, hconcrete, rfl⟩)
  | keyProperty hkind hkey hname hown _ =>
      show _ ∈ ((structuredErrors _).run base).1
      rw [structuredErrors_of_empty hmodel (hempty _), properties_of_empty hmodel (hempty _)]
      refine List.mem_append_right _ ?_
      rw [hkind]
      exact StructuredType.mem_keyErrors_iff.2 (.inr ⟨_, _, hkey, hname, hown, rfl⟩)
  | importSet hset =>
      show _ ∈ ((importErrors _).run base).1
      rw [importErrors_of_empty hmodel (hempty _)]
      refine List.mem_append_right _ ?_
      exact OperationImport.mem_entitySetErrors_none.2 ⟨_, hset, rfl⟩
  | member himport _ ih =>
      show _ ∈ ((containerErrors _).run base).1
      rw [containerErrors_of_empty hmodel (hempty _)]
      exact List.mem_append_right _ (List.mem_flatMap.2 ⟨_, himport, ih⟩)

/-- What is reported of a node once its model is gone, whatever has been asked before and since: a
problem that the model has, that the model is gone, or something that cannot be reached.  And
whatever cannot be reached is reported where nothing has been asked before. -/
theorem errors_of_orphaned (model : Model) (before later : List Query) (holder : ErrorHolder) :
    NothingNew ((start model).answer (.errorsOf holder)) (ReportedBlindly holder)
        ((orphaned model before later).answer (.errorsOf holder)) ∧
      ∀ error, ReportedBlindly holder error →
        error ∈ (orphaned model [] later).answer (.errorsOf holder) := by
  refine ⟨?_, fun error h => mem_answer_of_reportedBlindly model later h⟩
  have hstart : (start model).answer (.errorsOf holder) = holder.derive model :=
    answer_eq_derive model [] (.errorsOf holder)
  rw [answer_orphaned, hstart]
  exact nothingNew_errors (live_after model before) holder

/-- Novels, which are books, which are things; the key is that of a book and names a property of a
thing.  An import gives novels of the entity set of books. -/
def novels : Declared.Description where
  schemas := [{
    namespaceName := "N"
    entityTypes := [
      { name := "Thing", isAbstract := true
        properties := [{ name := "Id", typeName := "Edm.Int32" }] },
      { name := "Book", baseType := some "N.Thing", key := some ["Id"] },
      { name := "Novel", baseType := some "N.Book" }]
    functions := [{ name := "Latest", returnType := some { typeName := "N.Novel" } }]
    containers := [{
      name := "Default"
      entitySets := [{ name := "Books", entityType := "N.Book" }]
      functionImports := [
        { name := "Latest", function := "N.Latest", entitySet := some "Books" }] }] }]

/-- Nothing is wrong with the model.  When it is gone, the key property of books, the key of novels
and the entity set of the import are reported to be missing. -/
theorem not_errors_of_orphaned :
    let model := Model.ofDescription novels
    model.validate = [] ∧ ∀ name ∈ ["N.Book", "N.Novel", "N.Default"],
      ∃ element ∈ model.find name,
        ∃ error ∈ (orphaned model [] []).answer (.errorsOf (.element element)),
          error ∉ (start model).answer (.errorsOf (.element element)) ∧
            error.code ≠ .modelUnavailable := by
  decide +kernel

end Session
end ResourcePaths

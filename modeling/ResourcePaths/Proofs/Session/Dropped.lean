import ResourcePaths.Proofs.Model.Detached
import ResourcePaths.Proofs.Session.Queries

/-!
# Nodes without their model

What nodes still say once their model is gone.  They never lead to an element of it again.  A type
that has been read before is seen without its elements, a type that has not is a placeholder under
the name that was declared, and problems that have been read once stay as they are.  Nothing that is
read later changes any of this.
-/

namespace ResourcePaths

/-! ### Cells of types -/

namespace TypeHolder

/-- The cell that keeps the reference to the type. -/
def cell : TypeHolder → Cell
  | property node => .propertyType node
  | base type => .base type
  | parameter node => .parameterType node
  | result operation => .resultType operation
  | source (.declared node) => .sourceEntity node
  | source (.unknown _ node) => .propertyType (.navigation node)
  | term node => .termType node

/-- The reference that is kept in the cell, where a type is declared. -/
def stored : (holder : TypeHolder) → holder.cell.Value → Option TypeReference
  | property _, resolved => some resolved.value
  | base _, resolved => resolved.value
  | parameter _, resolved => some resolved.value
  | result _, resolved => resolved.value
  | source (.declared _), resolved => some resolved.value
  | source (.unknown _ _), resolved => some resolved.value
  | term _, resolved => some resolved.value

/-- The name of the type, where one is declared. -/
def typeName? : TypeHolder → Option String
  | property (.structural node) => some node.decl.typeName
  | property (.navigation node) => some node.decl.typeName
  | base type => type.decl.baseType
  | parameter node => some node.decl.typeName
  | result operation => operation.decl.returnType.map (·.typeName)
  | source (.declared node) => some node.typeName
  | source (.unknown _ node) => some node.decl.typeName
  | term node => some node.decl.typeName

/-- The place that problems of the type are reported at. -/
def location : TypeHolder → Declared.Location
  | property node => node.location
  | base type => type.decl.location
  | parameter node => node.location
  | result operation => operation.decl.location
  | source (.declared node) => node.location
  | source (.unknown _ node) => node.decl.location
  | term node => node.decl.location

/-- The type that is shown for the one referred to: an entity set shows the collection. -/
def shape : TypeHolder → ModelType → ModelType
  | source (.declared node), type => node.typeWith type
  | _, type => type

theorem shape_detached (holder : TypeHolder) (type : ModelType) :
    holder.shape type.detached = (holder.shape type).detached := by
  cases holder with
  | source node =>
      cases node with
      | declared node =>
          show node.typeWith type.detached = (node.typeWith type).detached
          unfold DeclaredSource.typeWith
          cases node.kind with
          | entitySet | singleton => rfl
      | unknown parent node => rfl
  | property | base | parameter | result | term => rfl

theorem isDetached_shape (holder : TypeHolder) {type : ModelType} (h : type.IsDetached) :
    (holder.shape type).IsDetached := by
  cases holder with
  | source node =>
      cases node with
      | declared node =>
          show (node.typeWith type).IsDetached
          unfold DeclaredSource.typeWith
          cases node.kind with
          | entitySet | singleton => exact h
      | unknown parent node => exact h
  | property | base | parameter | result | term => exact h

/-- A model keeps references to types only. -/
theorem refersToTypes_of_stored {model : Model} (holder : TypeHolder) {reference : TypeReference}
    (h : holder.stored (holder.cell.derive model) = some reference) :
    reference.RefersToTypes model := by
  cases holder with
  | property node =>
      obtain rfl := Option.some.inj h
      exact model.refersToTypes_property node
  | base type => exact model.refersToTypes_base h
  | parameter node =>
      obtain rfl := Option.some.inj h
      exact model.refersToTypes_resolve ..
  | result operation => exact model.refersToTypes_result h
  | source node =>
      cases node with
      | declared node =>
          obtain rfl := Option.some.inj h
          exact model.refersToTypes_resolveStructured ..
      | unknown parent node =>
          obtain rfl := Option.some.inj h
          exact model.refersToTypes_property (.navigation node)
  | term node =>
      obtain rfl := Option.some.inj h
      exact model.refersToTypes_resolve ..

/-- The type is what the kept reference leads to. -/
theorem run_read (holder : TypeHolder) (session : Session) :
    (holder.read.run session).1 = (holder.stored (holder.cell.read.run session).1).map
      fun reference => holder.shape (reference.follow session.model) := by
  -- The reference is followed in the session that reading the cell has left.
  have hmodel : (holder.cell.read.run session).2.model = session.model :=
    ((Session.steady_read holder.cell).grown session).model_eq
  rw [← hmodel]
  cases holder with
  | source node =>
      cases node with
      | declared | unknown => rfl
  | property | base | parameter | result | term => rfl

/-- A cell is filled from the model alone; without a model, with a placeholder under the name that
was declared. -/
theorem exists_read_eq_rememberIn (holder : TypeHolder) :
    ∃ derive, holder.cell.read = Session.rememberIn holder.cell derive ∧
      holder.stored (derive none) = holder.typeName?.map fun name =>
        .bad (.ofName name .typeDefinition [⟨holder.location, .modelUnavailable⟩]) := by
  cases holder with
  | property node =>
      refine ⟨_, rfl, ?_⟩
      cases node with
      | structural | navigation => rfl
  | base type =>
      refine ⟨_, rfl, ?_⟩
      show (type.baseReferenceIn none).value = type.decl.baseType.map _
      unfold StructuredType.baseReferenceIn
      cases type.decl.baseType with
      | none | some => rfl
  | result operation =>
      refine ⟨_, rfl, ?_⟩
      show (operation.resultReferenceIn none).value = (operation.decl.returnType.map _).map _
      unfold Operation.resultReferenceIn
      cases operation.decl.returnType with
      | none | some => rfl
  | source node =>
      cases node with
      | declared | unknown => exact ⟨_, rfl, rfl⟩
  | parameter | term => exact ⟨_, rfl, rfl⟩

end TypeHolder

/-- Without a model no reference leads to an element. -/
theorem ElementReference.exists_follow_none_eq_error (name : String) (kind : ElementKind)
    (location : Declared.Location) (reference : ElementReference) :
    ∃ placeholder, reference.follow none name kind location = .error placeholder := by
  cases reference with
  | ok id => exact ⟨_, rfl⟩
  | error placeholder => exact ⟨placeholder, rfl⟩

namespace Session

theorem run_rememberIn_of_empty {session : Session} {cell : Cell}
    (h : session.memory.find? cell = none) (derive : Option Model → cell.Value) :
    ((rememberIn cell derive).run session).1 = derive session.model := by
  unfold rememberIn
  rw [run_remember_of_empty h]
  rfl

/-! ### Types -/

/-- Without a model no type has an element in it. -/
theorem isDetached_read (holder : TypeHolder) {session : Session} (hmodel : session.model = none)
    {type : ModelType} (h : (holder.read.run session).1 = some type) : type.IsDetached := by
  rw [holder.run_read, hmodel] at h
  obtain ⟨reference, -, rfl⟩ := Option.map_eq_some_iff.1 h
  exact holder.isDetached_shape reference.isDetached_follow_none

/-- A type that is first read without a model is a placeholder. -/
theorem read_of_empty (holder : TypeHolder) {session : Session} (hmodel : session.model = none)
    (h : session.memory.find? holder.cell = none) :
    (holder.read.run session).1 = holder.typeName?.map fun name => holder.shape
      (.bad (.ofName name .typeDefinition [⟨holder.location, .modelUnavailable⟩])) := by
  obtain ⟨derive, hread, hderive⟩ := holder.exists_read_eq_rememberIn
  rw [holder.run_read, hread, run_rememberIn_of_empty h, hmodel, hderive, Option.map_map]
  rfl

/-- A type that has been read from the model is seen without its elements. -/
theorem read_drop_of_filled (holder : TypeHolder) {model : Model} {session : Session}
    (hlive : Live model session) {value : holder.cell.Value}
    (h : session.memory.find? holder.cell = some value) :
    (holder.read.run session.drop).1 = (holder.read.run session).1.map ModelType.detached := by
  obtain ⟨derive, hread⟩ := exists_read_eq_remember holder.cell
  have hkept : session.drop.memory.find? holder.cell = some value := h
  have hdropped : (holder.cell.read.run session.drop).1 = value := by
    rw [hread, run_remember_of_filled hkept]
  have hgiven : (holder.cell.read.run session).1 = value := by
    rw [hread, run_remember_of_filled h]
  rw [holder.run_read, holder.run_read, hdropped, hgiven, hlive.model_eq, Option.map_map,
    hlive.derived holder.cell value h]
  cases hstored : holder.stored (holder.cell.derive model) with
  | none => rfl
  | some reference =>
      have hseen := TypeReference.follow_none_eq_detached (holder.refersToTypes_of_stored hstored)
      show some (holder.shape (reference.follow none)) =
        some (holder.shape (reference.follow (some model))).detached
      rw [hseen, holder.shape_detached]

/-! ### Elements -/

section Unreachable

variable {session : Session} (hmodel : session.model = none)
include hmodel

theorem run_context_of_dropped : context.run session = (none, session) := by
  show (session.model, session) = (none, session)
  rw [hmodel]

theorem typeOf_isDetached (property : Property) :
    ((typeOf property).run session).1.IsDetached :=
  isDetached_read (.property property) hmodel rfl

theorem baseStructured?_of_dropped (type : StructuredType) :
    ((baseStructured? type).run session).1 = none := by
  show ((baseType? type).run session).1.bind ModelType.structured? = none
  cases hbase : ((baseType? type).run session).1 with
  | none => rfl
  | some base =>
      have hdetached : base.IsDetached := isDetached_read (.base type) hmodel hbase
      exact ModelType.structured?_eq_none hdetached

theorem ancestors_of_dropped (type : StructuredType) : ((ancestors type).run session).1 = [] := by
  let next := (baseStructured? type).run session
  have hnext : next.1 = none := baseStructured?_of_dropped hmodel type
  show ((climb _ next.1).run next.2).1.1 = []
  rw [hnext, climb]
  rfl

theorem targetEntity?_of_dropped (property : NavigationProperty) :
    ((targetEntity? property).run session).1 = none := by
  have hdetached := typeOf_isDetached hmodel (.navigation property)
  exact ModelType.entity?_eq_none hdetached.itemType

theorem sourceEntity?_of_dropped (source : NavigationSource) :
    ((sourceEntity? source).run session).1 = none := by
  cases source with
  | declared source =>
      let read := (sourceReference source).run session
      have hread : read.2.model = none := (steady_sourceReference source).model_eq_none hmodel
      show (read.1.value.follow read.2.model).entity? = none
      rw [hread]
      exact ModelType.entity?_eq_none read.1.value.isDetached_follow_none
  | unknown parent property => exact targetEntity?_of_dropped hmodel property

theorem declaringType?_of_dropped (property : Property) :
    ((declaringType? property).run session).1 = none := by
  show session.model.bind _ = none
  rw [hmodel]
  rfl

theorem navigationTarget?_of_dropped (source : NavigationSource) (property : NavigationProperty) :
    ((navigationTarget? source property).run session).1 = none := by
  cases source with
  | declared source =>
      let read := (bindings source).run session
      have hread : read.2.model = none := (steady_bindings source).model_eq_none hmodel
      show (bindingSource? read.2.model read.1.value property).map _ = none
      rw [hread]
      -- A binding may still fit; there is no container to look for its target in.
      unfold bindingSource?
      cases read.1.value.find? fun binding => bindingFits none binding.path property with
      | none | some => rfl
  | unknown parent property => rfl

theorem importedOperations_of_dropped (imp : OperationImport) :
    ((importedOperations imp).run session).1 = [] := by
  unfold importedOperations
  rw [StateT.run_bind, run_context_of_dropped hmodel]
  rfl

theorem importedSet?_of_dropped (imp : OperationImport) :
    ((importedSet? imp).run session).1 = none := by
  show imp.entitySetIn? session.model = none
  rw [hmodel]
  unfold OperationImport.entitySetIn?
  cases imp.setName? with
  | none | some => rfl

theorem exists_appliedTerm_eq_error (note : Annotation) :
    ∃ placeholder, ((appliedTerm note).run session).1 = .error placeholder := by
  let read := (termOf note).run session
  have hread : read.2.model = none := (steady_termOf note).model_eq_none hmodel
  show ∃ placeholder, note.followTerm read.2.model read.1.value = .error placeholder
  rw [hread]
  exact read.1.value.exists_follow_none_eq_error ..

theorem exists_referencedOperation_eq_error (note : Annotation) (way : List Nat) (name : String)
    (location : Declared.Location) :
    ∃ placeholder,
      ((referencedOperation note way name location).run session).1 = .error placeholder := by
  let read := (operationOf note way name location).run session
  have hread : read.2.model = none :=
    (steady_operationOf note way name location).model_eq_none hmodel
  show ∃ placeholder, Declared.Expression.followOperation read.2.model name location
    read.1.value = .error placeholder
  rw [hread]
  exact read.1.value.exists_follow_none_eq_error ..

end Unreachable

/-! ### Problems -/

variable {α β : Type}

/-- A session that still holds all that another one holds. -/
def Keeps (session later : Session) : Prop :=
  ∀ cell value, session.memory.find? cell = some value → later.memory.find? cell = some value

/-- A reading that gives the same again in every session that still holds what it has left.  The
model may be gone by then. -/
def Lasting (reading : Reading α) : Prop :=
  ∀ session later, Keeps (reading.run session).2 later →
    (reading.run later).1 = (reading.run session).1

theorem Keeps.trans {first second third : Session} (h : Keeps first second)
    (hnext : Keeps second third) : Keeps first third :=
  fun cell value hfound => hnext cell value (h cell value hfound)

theorem keeps_after (session : Session) (asked : List Query) :
    Keeps session (session.after asked) :=
  (grown_after session asked).kept

theorem lasting_pure (value : α) : Lasting (pure value : Reading α) :=
  fun _ _ _ => rfl

theorem Lasting.map {reading : Reading α} (h : Lasting reading) (f : α → β) :
    Lasting (do return f (← reading)) :=
  fun session later hkeeps => congrArg f (h session later hkeeps)

theorem Lasting.bind {reading : Reading α} {next : α → Reading β} (h : Lasting reading)
    (hsteady : Steady reading) (hnext : ∀ value, Lasting (next value))
    (hnextSteady : ∀ value, Steady (next value)) : Lasting (reading >>= next) := by
  intro session later hkeeps
  -- What the first reading has left is kept through the second one, and through its repetition.
  have hfirst : Keeps (reading.run session).2 later :=
    Keeps.trans ((hnextSteady _).grown _).kept hkeeps
  have hvalue := h session later hfirst
  have hsecond := hnext (reading.run session).1 (reading.run session).2 (reading.run later).2
    (hkeeps.trans (hsteady.grown later).kept)
  calc ((reading >>= next).run later).1
      = ((next (reading.run later).1).run (reading.run later).2).1 := rfl
    _ = ((next (reading.run session).1).run (reading.run later).2).1 := by rw [hvalue]
    _ = ((next (reading.run session).1).run (reading.run session).2).1 := hsecond

/-- A cell that has been read stays filled. -/
theorem lasting_read (cell : Cell) : Lasting cell.read := by
  obtain ⟨derive, hread⟩ := exists_read_eq_remember cell
  rw [hread]
  intro session later hkeeps
  have hfilled : (((remember cell derive).run session).2).memory.find? cell =
      some ((remember cell derive).run session).1 := by
    cases hfound : session.memory.find? cell with
    | some value => rw [run_remember_of_filled hfound, hfound]
    | none =>
        rw [run_remember_of_empty hfound]
        exact Memory.find?_cons_self ..
  rw [run_remember_of_filled (hkeeps cell _ hfilled)]

mutual

theorem lasting_expressionErrors (note : Annotation) (way : List Nat) :
    (expression : Declared.Expression) → Lasting (expressionErrors note way expression)
  | .constant _ => lasting_pure _
  | .path _ _ => lasting_pure _
  | .operationReference name location =>
    (lasting_read (.referencedOperation note way name location)).map _
  | .collection items _ => lasting_itemErrors note way 0 items
  | .null _ => lasting_pure _

theorem lasting_itemErrors (note : Annotation) (way : List Nat) (position : Nat) :
    (items : List Declared.Expression) → Lasting (itemErrors note way position items)
  | [] => lasting_pure _
  | item :: rest =>
    (lasting_expressionErrors note _ item).bind (steady_expressionErrors note _ item)
      (fun _ => (lasting_itemErrors note way _ rest).map _)
      (fun _ => (steady_itemErrors note way _ rest).map _)

end

/-- Problems that have been read once stay as they are. -/
theorem lasting_errors (holder : ErrorHolder) : Lasting holder.read := by
  cases holder with
  | element node => exact lasting_read (.elementErrors node)
  | property node => exact (lasting_read (.propertyType node)).map _
  | parameter node => exact (lasting_read (.parameterType node)).map _
  | source node => exact lasting_read (.sourceErrors node)
  | imp node => exact lasting_read (.importErrors node)
  | annotation note => exact lasting_read (.annotationErrors note)
  | expression note way node => exact lasting_expressionErrors note way node

theorem after_append (session : Session) (first second : List Query) :
    session.after (first ++ second) = (session.after first).after second := by
  induction first generalizing session with
  | nil => rfl
  | cons query rest ih => exact ih _

/-! ### Sessions that lose their model -/

/-- The session that has been asked some queries, has then lost its model, and has been asked other
queries since. -/
def orphaned (model : Model) (before later : List Query) : Session :=
  ((start model).after before).drop.after later

theorem model_orphaned (model : Model) (before later : List Query) :
    (orphaned model before later).model = none :=
  (grown_after _ later).model_eq

/-- What has been asked since the model was lost does not show. -/
theorem answer_orphaned (model : Model) (before later : List Query) (query : Query) :
    (orphaned model before later).answer query = ((start model).after before).drop.answer query :=
  answer_after _ later query

/-- What the nodes of a model say once it is gone: `before` has been asked while the model lived,
`later` has been asked since. -/
structure Outlives (model : Model) (before later : List Query) : Prop where
  /-- No type has an element in it. -/
  types : ∀ holder, ∀ type ∈ (orphaned model before later).answer (.typeOf holder),
    type.IsDetached
  appliedTerm : ∀ note, ∃ placeholder,
    (orphaned model before later).answer (.appliedTerm note) = .error placeholder
  referencedOperation : ∀ note way name location, ∃ placeholder,
    (orphaned model before later).answer (.referencedOperation note way name location) =
      .error placeholder
  importedOperations : ∀ imp,
    (orphaned model before later).answer (.importedOperations imp) = []
  importedSet : ∀ imp, (orphaned model before later).answer (.importedSet imp) = none
  declaringType : ∀ node, (orphaned model before later).answer (.declaringType node) = none
  baseStructured : ∀ type, (orphaned model before later).answer (.baseStructured type) = none
  ancestors : ∀ type, (orphaned model before later).answer (.ancestors type) = []
  targetEntity : ∀ node, (orphaned model before later).answer (.targetEntity node) = none
  sourceEntity : ∀ source, (orphaned model before later).answer (.sourceEntity source) = none
  navigationTarget : ∀ source node,
    (orphaned model before later).answer (.navigationTarget source node) = none
  /-- A type that was read before is seen without its elements. -/
  filled : ∀ holder value,
    ((start model).after before).memory.find? (TypeHolder.cell holder) = some value →
    (orphaned model before later).answer (.typeOf holder) =
      Option.map ModelType.detached (((start model).after before).answer (.typeOf holder))
  /-- A type that was not read before is a placeholder under the name that was declared. -/
  unfilled : ∀ holder,
    ((start model).after before).memory.find? (TypeHolder.cell holder) = none →
    (orphaned model before later).answer (.typeOf holder) = holder.typeName?.map fun name =>
      holder.shape (.bad (.ofName name .typeDefinition [⟨holder.location, .modelUnavailable⟩]))
  /-- Problems that were read before stay as they were. -/
  errors : ∀ holder first second, before = first ++ .errorsOf holder :: second →
    ((start model).after before).answer (.errorsOf holder) =
        ((start model).after first).answer (.errorsOf holder) ∧
      (orphaned model before later).answer (.errorsOf holder) =
        ((start model).after first).answer (.errorsOf holder)
  /-- No answer depends on what else has been asked since. -/
  unchanged : ∀ query others,
    (orphaned model before later).answer query = (orphaned model before others).answer query

theorem errors_of_asked (model : Model) {before first second : List Query} {holder : ErrorHolder}
    (h : before = first ++ .errorsOf holder :: second) (later : List Query) :
    (orphaned model before later).answer (.errorsOf holder) =
      ((start model).after first).answer (.errorsOf holder) := by
  let read := holder.read.run ((start model).after first)
  have hbefore : (start model).after before = read.2.after second := by
    rw [h, after_append]
    rfl
  have hkeeps : Keeps read.2 (orphaned model before later) := by
    have hlive := keeps_after read.2 second
    rw [← hbefore] at hlive
    -- The cells are still there when the model is not.
    have hdropped : Keeps read.2 ((start model).after before).drop := hlive
    exact hdropped.trans (keeps_after _ later)
  exact lasting_errors holder _ _ hkeeps

/-- Nodes that outlive their model never lead to an element of it, and never change their mind. -/
theorem outlives_of_drop (model : Model) (before later : List Query) :
    Outlives model before later := by
  have hmodel := model_orphaned model before later
  refine
    { types := fun holder type h => isDetached_read holder hmodel h
      appliedTerm := exists_appliedTerm_eq_error hmodel
      referencedOperation := exists_referencedOperation_eq_error hmodel
      importedOperations := importedOperations_of_dropped hmodel
      importedSet := importedSet?_of_dropped hmodel
      declaringType := declaringType?_of_dropped hmodel
      baseStructured := baseStructured?_of_dropped hmodel
      ancestors := ancestors_of_dropped hmodel
      targetEntity := targetEntity?_of_dropped hmodel
      sourceEntity := sourceEntity?_of_dropped hmodel
      navigationTarget := navigationTarget?_of_dropped hmodel
      filled := fun holder value h => ?_
      unfilled := fun holder h => ?_
      errors := fun holder first second h => ⟨?_, errors_of_asked model h later⟩
      unchanged := fun query others => ?_ }
  · rw [answer_orphaned]
    exact read_drop_of_filled holder (live_after model before) h
  · rw [answer_orphaned]
    exact read_of_empty holder rfl h
  · -- While the model lives, both answers are that of the first query of all.
    rw [answer_after, answer_after]
  · rw [answer_orphaned, answer_orphaned]

/-- Things with an owner, a size, and a colour of a type that does not exist. -/
def ownedThings : Declared.Description where
  schemas := [{
    namespaceName := "N"
    entityTypes := [
      { name := "Owner", isAbstract := true },
      { name := "Thing", isAbstract := true
        properties := [
          { name := "Size", typeName := "Edm.Int32" },
          { name := "Colour", typeName := "N.Colour" }]
        navigationProperties := [{ name := "Owner", typeName := "N.Owner" }] }] }]

/-- Before the model is dropped the type of the owner and the problems of the colour are read, but
not the type of the size. -/
theorem outlives_of_owner :
    let model := Model.ofDescription ownedThings
    let owner : Property := .navigation ⟨1, 0, { name := "Owner", typeName := "N.Owner" }⟩
    let size : Property := .structural ⟨1, 0, { name := "Size", typeName := "Edm.Int32" }⟩
    let colour : Property := .structural ⟨1, 1, { name := "Colour", typeName := "N.Colour" }⟩
    let before : List Query := [.typeOf (.property owner), .errorsOf (.property colour)]
    let later : List Query := [.typeOf (.property size), .errorsOf (.property size)]
    (orphaned model before later).answer (.typeOf (.property owner)) = some .lost ∧
      (orphaned model before later).answer (.typeOf (.property size)) =
        some (.bad
          ⟨"Edm", "Int32", .typeDefinition, [⟨{}, .modelUnavailable⟩], List.cons_ne_nil _ _⟩) ∧
      (orphaned model before later).answer (.errorsOf (.property colour)) =
        [⟨{}, .unresolvedType "N.Colour"⟩] := by
  intro model owner size colour before later
  have houtlives := outlives_of_drop model before later
  refine ⟨?_, ?_, ?_⟩
  · have hcell : ((start model).after before).memory.find? (.propertyType owner) =
        some ⟨.element 0, []⟩ := by decide +kernel
    rw [houtlives.filled (.property owner) _ hcell]
    decide +kernel
  · have hcell : ((start model).after before).memory.find? (.propertyType size) = none := by
      decide +kernel
    rw [houtlives.unfilled (.property size) hcell]
    decide +kernel
  · rw [(houtlives.errors (.property colour) [.typeOf (.property owner)] [] rfl).2]
    decide +kernel

end Session
end ResourcePaths

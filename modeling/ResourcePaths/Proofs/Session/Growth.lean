import ResourcePaths.Session.Annotation

/-!
# Growing sessions

Reading only ever fills cells.  A session that has grown out of another one by being read has the
same model, or has none like the other one; it holds all that the other one held, and what the other
one would have given in each cell filled since.  Every reading is steady: it gives in the grown
session what it gives in the other one.  So it never shows what has been read in between, neither
while the model lives nor once it is gone.
-/

namespace ResourcePaths

/-- The reading that fills a cell, or finds it filled. -/
def Cell.read : (cell : Cell) → Reading cell.Value
  | base type => Session.baseReference type
  | properties type => Session.properties type
  | propertyType property => Session.propertyReference property
  | parameterType parameter => Session.parameterReference parameter
  | resultType operation => Session.resultReference operation
  | sourceEntity source => Session.sourceReference source
  | bindings source => Session.bindings source
  | sourceErrors source => Session.sourceErrors source
  | imported imp => Session.importedReferences imp
  | importErrors imp => Session.importErrors imp
  | termType term => Session.termReference term
  | termDefault term => Session.termDefault? term
  | elementErrors element => Session.elementErrors element
  | appliedTerm note => Session.termOf note
  | referencedOperation note way name location => Session.operationOf note way name location
  | annotationErrors note => Session.annotationErrors note

namespace Session

variable {α β : Type}

/-! ### Cells -/

theorem run_remember_of_filled {session : Session} {cell : Cell} {value : cell.Value}
    (h : session.memory.find? cell = some value) (derive : Reading cell.Value) :
    (remember cell derive).run session = (value, session) := by
  simp [remember, h]
  rfl

theorem run_remember_of_empty {session : Session} {cell : Cell}
    (h : session.memory.find? cell = none) (derive : Reading cell.Value) :
    (remember cell derive).run session =
      ((derive.run session).1, { (derive.run session).2 with
        memory := ⟨cell, (derive.run session).1⟩ :: (derive.run session).2.memory }) := by
  simp [remember, h]
  rfl

/-- Every cell is filled in one way only. -/
theorem exists_read_eq_remember (cell : Cell) : ∃ derive, cell.read = remember cell derive := by
  cases cell with
  | elementErrors element => cases element <;> exact ⟨_, rfl⟩
  | _ => exact ⟨_, rfl⟩

/-! ### Readings in a kind of sessions -/

/-- A reading that gives a value in every session of a kind, and leaves a session of that kind. -/
def GivesIn (kind : Session → Prop) (reading : Reading α) (value : α) : Prop :=
  ∀ session, kind session → (reading.run session).1 = value ∧ kind (reading.run session).2

variable {kind : Session → Prop}

theorem givesIn_pure (value : α) : GivesIn kind (pure value) value :=
  fun _ hkind => ⟨rfl, hkind⟩

theorem GivesIn.bind {reading : Reading α} {value : α} {next : α → Reading β} {result : β}
    (h : GivesIn kind reading value) (hnext : GivesIn kind (next value) result) :
    GivesIn kind (reading >>= next) result := by
  intro session hkind
  obtain ⟨hvalue, hkind⟩ := h session hkind
  have := hnext _ hkind
  rw [← hvalue] at this
  exact this

theorem GivesIn.map {reading : Reading α} {value : α} (h : GivesIn kind reading value)
    (f : α → β) : GivesIn kind (do return f (← reading)) (f value) :=
  h.bind (givesIn_pure _)

theorem givesIn_flatMapM {f : α → Reading (List β)} {g : α → List β} {items : List α}
    (h : ∀ item ∈ items, GivesIn kind (f item) (g item)) :
    GivesIn kind (items.flatMapM f) (items.flatMap g) := by
  induction items with
  | nil => exact givesIn_pure []
  | cons item rest ih =>
      obtain ⟨hitem, hrest⟩ := List.forall_mem_cons.1 h
      rw [List.flatMapM_cons, List.flatMap_cons]
      exact hitem.bind ((ih hrest).map _)

/-! ### Growth -/

/-- A session that has grown out of another one. -/
structure Grown (base session : Session) : Prop where
  model_eq : session.model = base.model
  kept : ∀ cell value, base.memory.find? cell = some value →
    session.memory.find? cell = some value
  filled : ∀ cell value, session.memory.find? cell = some value →
    (cell.read.run base).1 = value

/-- A reading that gives in every grown session what it gives in the session before, and lets it
grow on. -/
def Steady (reading : Reading α) : Prop :=
  ∀ base session, Grown base session →
    (reading.run session).1 = (reading.run base).1 ∧ Grown base (reading.run session).2

theorem Grown.refl (session : Session) : Grown session session := by
  refine ⟨rfl, fun cell value h => h, fun cell value h => ?_⟩
  obtain ⟨derive, hread⟩ := exists_read_eq_remember cell
  rw [hread, run_remember_of_filled h]

theorem Steady.grown {reading : Reading α} (h : Steady reading) (session : Session) :
    Grown session (reading.run session).2 :=
  (h session session (.refl session)).2

/-- No reading brings a model back. -/
theorem Steady.model_eq_none {reading : Reading α} (h : Steady reading) {session : Session}
    (hmodel : session.model = none) : (reading.run session).2.model = none := by
  rw [(h.grown session).model_eq, hmodel]

theorem steady_pure (value : α) : Steady (pure value : Reading α) :=
  fun _ _ hgrown => ⟨rfl, hgrown⟩

/-- A steady reading gives one value in all sessions that have grown out of one. -/
theorem Steady.givesIn {reading : Reading α} {base : Session} (h : Steady reading) :
    GivesIn (Grown base) reading (reading.run base).1 :=
  h base

theorem GivesIn.eq {base : Session} {reading : Reading α} {value : α}
    (h : GivesIn (Grown base) reading value) : (reading.run base).1 = value :=
  (h base (.refl base)).1

theorem steady_of_givesIn {reading : Reading α}
    (h : ∀ base, ∃ value, GivesIn (Grown base) reading value) : Steady reading := by
  intro base session hgrown
  obtain ⟨value, hgives⟩ := h base
  obtain ⟨hvalue, hread⟩ := hgives session hgrown
  exact ⟨hvalue.trans hgives.eq.symm, hread⟩

theorem Steady.bind {reading : Reading α} {next : α → Reading β} (h : Steady reading)
    (hnext : ∀ value, Steady (next value)) : Steady (reading >>= next) :=
  steady_of_givesIn fun _ => ⟨_, h.givesIn.bind (hnext _).givesIn⟩

theorem Steady.map {reading : Reading α} (h : Steady reading) (f : α → β) :
    Steady (do return f (← reading)) :=
  h.bind fun _ => steady_pure _

theorem steady_context : Steady context :=
  fun _ _ hgrown => ⟨hgrown.model_eq, hgrown⟩

/-- A cell is steady where its derivation is. -/
theorem steady_remember {cell : Cell} {derive : Reading cell.Value}
    (hread : cell.read = remember cell derive) (h : Steady derive) :
    Steady (remember cell derive) := by
  intro base session hgrown
  cases hfound : session.memory.find? cell with
  | some value =>
      rw [run_remember_of_filled hfound]
      refine ⟨?_, hgrown⟩
      rw [← hread]
      exact (hgrown.filled cell value hfound).symm
  | none =>
      -- What the grown session does not hold, the session before did not hold either.
      have hempty : base.memory.find? cell = none := by
        cases hbase : base.memory.find? cell with
        | none => rfl
        | some value =>
            rw [hgrown.kept cell value hbase] at hfound
            contradiction
      obtain ⟨hvalue, hderived⟩ := h base session hgrown
      have hgives : ((remember cell derive).run base).1 = (derive.run base).1 := by
        rw [run_remember_of_empty hempty]
      rw [run_remember_of_empty hfound, hgives]
      refine ⟨hvalue, hderived.model_eq, fun other value hother => ?_, fun other value hother => ?_⟩
      · by_cases hcell : cell = other
        · subst hcell
          rw [hempty] at hother
          contradiction
        · rw [Memory.find?_cons_of_ne _ _ hcell]
          exact hderived.kept other value hother
      · by_cases hcell : cell = other
        · subst hcell
          rw [Memory.find?_cons_self] at hother
          rw [hread, hgives, ← hvalue]
          exact Option.some.inj hother
        · rw [Memory.find?_cons_of_ne _ _ hcell] at hother
          exact hderived.filled other value hother

theorem steady_rememberIn {cell : Cell} {derive : Option Model → cell.Value}
    (hread : cell.read = rememberIn cell derive) : Steady (rememberIn cell derive) :=
  steady_remember hread (steady_context.map derive)

theorem steady_follow (reference : TypeReference) : Steady (follow reference) :=
  steady_context.map _

theorem steady_flatMapM {f : α → Reading (List β)} (h : ∀ item, Steady (f item))
    (items : List α) : Steady (items.flatMapM f) :=
  steady_of_givesIn fun _ => ⟨_, givesIn_flatMapM fun item _ => (h item).givesIn⟩

/-! ### Structured types -/

theorem steady_baseReference (type : StructuredType) : Steady (baseReference type) :=
  steady_rememberIn rfl

theorem steady_baseType? (type : StructuredType) : Steady (baseType? type) :=
  (steady_baseReference type).bind fun _ => steady_context.map _

theorem steady_baseStructured? (type : StructuredType) : Steady (baseStructured? type) :=
  (steady_baseType? type).map _

theorem steady_climb (unmet : List ElementId) (start : Option StructuredType) :
    Steady (climb unmet start) := by
  induction unmet, start using climb.induct with
  | case1 unmet =>
      rw [climb]
      exact steady_pure _
  | case2 unmet type hunmet ih =>
      rw [climb, if_pos hunmet]
      exact (steady_baseStructured? type).bind fun next => (ih next).map _
  | case3 unmet type hmet =>
      rw [climb, if_neg hmet]
      exact steady_pure _

theorem steady_walk (type : StructuredType) : Steady (walk type) :=
  (steady_baseStructured? type).bind fun _ => steady_context.bind fun _ => steady_climb _ _

theorem steady_ancestors (type : StructuredType) : Steady (ancestors type) :=
  (steady_walk type).map _

theorem steady_isOpenStructured (type : StructuredType) : Steady (isOpenStructured type) := by
  rw [isOpenStructured]
  split
  · exact steady_pure true
  · exact (steady_ancestors type).map _

theorem steady_inherits (type other : StructuredType) : Steady (inherits type other) := by
  rw [inherits]
  split
  · exact steady_pure true
  · exact (steady_ancestors type).map _

theorem steady_properties (type : StructuredType) : Steady (properties type) :=
  steady_remember rfl ((steady_ancestors type).map _)

theorem steady_findProperty? (type : StructuredType) (name : String) (ignoreCase : Bool) :
    Steady (findProperty? type name ignoreCase) :=
  (steady_properties type).map _

theorem steady_keyNames? (type : StructuredType) : Steady (keyNames? type) := by
  rw [keyNames?]
  split
  · exact steady_pure _
  · exact (steady_ancestors type).map _

theorem steady_key (type : StructuredType) : Steady (key type) := by
  refine (steady_keyNames? type).bind fun names => ?_
  split
  · exact steady_pure _
  · exact (steady_properties type).map _

theorem steady_propertyReference (property : Property) : Steady (propertyReference property) :=
  steady_rememberIn rfl

theorem steady_typeOf (property : Property) : Steady (typeOf property) :=
  (steady_propertyReference property).bind fun _ => steady_follow _

theorem steady_propertyErrors (property : Property) : Steady (propertyErrors property) :=
  (steady_propertyReference property).map _

theorem steady_declaringType? (property : Property) : Steady (declaringType? property) :=
  steady_context.map _

theorem steady_targetEntity? (property : NavigationProperty) : Steady (targetEntity? property) :=
  (steady_typeOf (.navigation property)).map _

theorem steady_partner? (property : NavigationProperty) : Steady (partner? property) := by
  rw [partner?]
  split
  · exact steady_pure none
  · rename_i name hname
    refine (steady_targetEntity? property).bind fun target => ?_
    cases target with
    | none => exact steady_pure none
    | some target => exact (steady_findProperty? target name false).map _

theorem steady_structuredErrors (type : StructuredType) : Steady (structuredErrors type) :=
  steady_remember rfl <| (steady_baseReference type).bind fun _ => steady_context.bind fun _ =>
    (steady_walk type).bind fun _ => (steady_properties type).bind fun _ =>
    (steady_flatMapM steady_propertyErrors _).bind fun _ => (steady_keyNames? type).map _

theorem steady_isOpen (type : ModelType) : Steady (isOpen type) := by
  cases type with
  | structured type => exact steady_isOpenStructured type
  | primitive | enum | definition | collection | untyped | bad => exact steady_pure _

theorem steady_isAssignable (target source : ModelType) : Steady (isAssignable target source) := by
  fun_induction isAssignable target source with
  | case5 target source hkind => exact steady_inherits source target
  | case9 target source ih => exact ih
  | case1 | case2 | case3 | case4 | case6 | case7 | case8 | case10 => exact steady_pure _

/-! ### Navigation sources -/

theorem steady_sourceReference (source : DeclaredSource) : Steady (sourceReference source) :=
  steady_rememberIn rfl

theorem steady_bindings (source : DeclaredSource) : Steady (bindings source) :=
  steady_rememberIn rfl

theorem steady_sourceEntity? (source : NavigationSource) : Steady (sourceEntity? source) := by
  cases source with
  | declared source =>
      exact (steady_sourceReference source).bind fun _ => (steady_follow _).map _
  | unknown parent property => exact steady_targetEntity? property

theorem steady_sourceType (source : NavigationSource) : Steady (sourceType source) := by
  cases source with
  | declared source =>
      exact (steady_sourceReference source).bind fun _ => (steady_follow _).map _
  | unknown parent property => exact steady_typeOf (.navigation property)

theorem steady_navigationTarget? (source : NavigationSource) (property : NavigationProperty) :
    Steady (navigationTarget? source property) := by
  cases source with
  | declared source => exact (steady_bindings source).bind fun _ => steady_context.map _
  | unknown parent property => exact steady_pure none

theorem steady_unknownSource? (source : NavigationSource) (names : List String) :
    Steady (unknownSource? source names) := by
  induction names generalizing source with
  | nil => exact steady_pure _
  | cons name rest ih =>
      refine (steady_sourceEntity? source).bind fun entity => ?_
      cases entity with
      | none => exact steady_pure none
      | some entity =>
          refine (steady_findProperty? entity name false).bind fun property => ?_
          split
          · exact ih _
          · exact steady_pure none

theorem steady_sourceErrors (source : DeclaredSource) : Steady (sourceErrors source) :=
  steady_remember rfl <| (steady_sourceReference source).bind fun _ =>
    (steady_bindings source).map _

/-! ### Operations -/

theorem steady_parameterReference (parameter : Parameter) : Steady (parameterReference parameter) :=
  steady_rememberIn rfl

theorem steady_parameterType (parameter : Parameter) : Steady (parameterType parameter) :=
  (steady_parameterReference parameter).bind fun _ => steady_follow _

theorem steady_resultReference (operation : Operation) : Steady (resultReference operation) :=
  steady_rememberIn rfl

theorem steady_resultType? (operation : Operation) : Steady (resultType? operation) :=
  (steady_resultReference operation).bind fun _ => steady_context.map _

theorem steady_isBoundTo (type : ModelType) (operation : Operation) :
    Steady (isBoundTo type operation) := by
  rw [isBoundTo]
  split
  · exact (steady_parameterType _).bind fun _ => steady_isAssignable _ _
  · exact steady_pure false

theorem steady_findBoundOperations (type : ModelType) : Steady (findBoundOperations type) := by
  refine steady_context.bind fun context => ?_
  cases context with
  | none => exact steady_pure []
  | some model => exact steady_flatMapM (fun operation => (steady_isBoundTo type operation).map _) _

theorem steady_parameterErrors (operation : Operation) (seen : List String)
    (parameters : List Parameter) : Steady (parameterErrors operation seen parameters) := by
  induction parameters generalizing seen with
  | nil => exact steady_pure []
  | cons parameter rest ih =>
      exact (steady_parameterReference parameter).bind fun _ => (ih _).map _

theorem steady_operationErrors (operation : Operation) : Steady (operationErrors operation) :=
  steady_remember rfl <| steady_context.bind fun _ =>
    (steady_parameterErrors operation [] _).bind fun _ => (steady_resultReference operation).map _

theorem steady_importedReferences (imp : OperationImport) : Steady (importedReferences imp) :=
  steady_rememberIn rfl

theorem steady_importedOperations (imp : OperationImport) : Steady (importedOperations imp) := by
  refine steady_context.bind fun context => ?_
  cases context with
  | none => exact steady_pure []
  | some model => exact (steady_importedReferences imp).map _

theorem steady_importedSet? (imp : OperationImport) : Steady (importedSet? imp) :=
  steady_context.map _

theorem steady_importErrors (imp : OperationImport) : Steady (importErrors imp) :=
  steady_remember rfl <| (steady_importedReferences imp).bind fun _ => steady_context.map _

theorem steady_containerErrors (container : Container) : Steady (containerErrors container) :=
  steady_remember rfl <| steady_context.bind fun _ =>
    (steady_flatMapM steady_sourceErrors _).bind fun _ =>
    (steady_flatMapM steady_importErrors _).map _

/-! ### Terms and annotations -/

theorem steady_termReference (term : Term) : Steady (termReference term) :=
  steady_rememberIn rfl

theorem steady_termType (term : Term) : Steady (termType term) :=
  (steady_termReference term).bind fun _ => steady_follow _

theorem steady_termDefault? (term : Term) : Steady (termDefault? term) := by
  refine steady_remember rfl ?_
  split
  · exact (steady_termType term).map _
  · exact steady_pure none

theorem steady_termErrors (term : Term) : Steady (termErrors term) :=
  steady_remember rfl <| steady_context.bind fun _ => (steady_termReference term).bind fun _ =>
    (steady_termDefault? term).map _

theorem steady_termOf (note : Annotation) : Steady (termOf note) :=
  steady_rememberIn rfl

theorem steady_appliedTerm (note : Annotation) : Steady (appliedTerm note) :=
  (steady_termOf note).bind fun _ => steady_context.map _

theorem steady_operationOf (note : Annotation) (way : List Nat) (name : String)
    (location : Declared.Location) : Steady (operationOf note way name location) :=
  steady_rememberIn rfl

theorem steady_referencedOperation (note : Annotation) (way : List Nat) (name : String)
    (location : Declared.Location) : Steady (referencedOperation note way name location) :=
  (steady_operationOf note way name location).bind fun _ => steady_context.map _

mutual

theorem steady_expressionErrors (note : Annotation) (way : List Nat) :
    (expression : Declared.Expression) → Steady (expressionErrors note way expression)
  | .constant _ => steady_pure _
  | .path _ _ => steady_pure _
  | .operationReference name location => (steady_operationOf note way name location).map _
  | .collection items _ => steady_itemErrors note way 0 items
  | .null _ => steady_pure _

theorem steady_itemErrors (note : Annotation) (way : List Nat) (position : Nat) :
    (items : List Declared.Expression) → Steady (itemErrors note way position items)
  | [] => steady_pure _
  | item :: rest =>
    (steady_expressionErrors note _ item).bind fun _ => (steady_itemErrors note way _ rest).map _

end

theorem steady_annotationErrors (note : Annotation) : Steady (annotationErrors note) :=
  steady_remember rfl <| (steady_termOf note).bind fun _ =>
    (steady_expressionErrors note [] _).map _

theorem steady_elementErrors (element : Element) : Steady (elementErrors element) := by
  cases element with
  | structured type => exact steady_structuredErrors type
  | enum type => exact steady_rememberIn rfl
  | definition type => exact steady_rememberIn rfl
  | operation operation => exact steady_operationErrors operation
  | term term => exact steady_termErrors term
  | container container => exact steady_containerErrors container

theorem steady_read (cell : Cell) : Steady cell.read := by
  cases cell with
  | base type => exact steady_baseReference type
  | properties type => exact steady_properties type
  | propertyType property => exact steady_propertyReference property
  | parameterType parameter => exact steady_parameterReference parameter
  | resultType operation => exact steady_resultReference operation
  | sourceEntity source => exact steady_sourceReference source
  | bindings source => exact steady_bindings source
  | sourceErrors source => exact steady_sourceErrors source
  | imported imp => exact steady_importedReferences imp
  | importErrors imp => exact steady_importErrors imp
  | termType term => exact steady_termReference term
  | termDefault term => exact steady_termDefault? term
  | elementErrors element => exact steady_elementErrors element
  | appliedTerm note => exact steady_termOf note
  | referencedOperation note way name location => exact steady_operationOf note way name location
  | annotationErrors note => exact steady_annotationErrors note

theorem steady_validate : Steady validate := by
  refine steady_context.bind fun context => ?_
  cases context with
  | none => exact steady_pure []
  | some model =>
      exact (steady_flatMapM steady_elementErrors _).bind fun _ =>
        (steady_flatMapM steady_annotationErrors _).map _

end Session
end ResourcePaths

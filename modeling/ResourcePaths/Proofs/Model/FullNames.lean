import ResourcePaths.Proofs.Model.Keys
import ResourcePaths.Proofs.Model.Naming

/-!
# Qualified names lead back

A look-up does not take every name as it is written: it drops the blanks at the ends and puts a
namespace in place of a short name for it, and a name of a type may be that of a collection or of
a type that every model knows.  In a model without problems nothing else stands between an element
and its own qualified name.
-/

namespace ResourcePaths

/-! ### Names of collections -/

namespace Name

@[simp]
theorem itemName?_trim (name : List Char) : itemName? (Text.trim name) = itemName? name := by
  rw [itemName?, itemName?, Text.trim_trim]

/-- The name of a collection mentions that of its items. -/
theorem itemName?_collection (name : List Char) :
    itemName? (collectionMark ++ name ++ [')']) = some (Text.trim name) := by
  have htrim : Text.trim (collectionMark ++ name ++ [')']) = collectionMark ++ name ++ [')'] :=
    Text.trim_between (by decide) (by decide) _
  rw [itemName?, htrim, List.append_assoc, Text.dropFront?_append, Option.bind_some,
    Text.dropBack?_append, Option.map_some]

theorem peel_of_item {name item : List Char} (h : itemName? name = some item) :
    peel name = ((peel item).1 + 1, (peel item).2) := by
  rw [peel]
  split
  · rename_i found hfound
    rw [h] at hfound
    obtain rfl := Option.some.inj hfound
    rfl
  · rename_i hnone
    rw [h] at hnone
    contradiction

theorem peel_of_not_collection {name : List Char} (h : itemName? name = none) :
    peel name = (0, name) := by
  rw [peel]
  split
  · rename_i found hfound
    rw [h] at hfound
    contradiction
  · rfl

/-- Blanks at the ends of a name change neither its layers nor, up to such blanks, what is in
them. -/
theorem peel_trim (name : List Char) :
    (peel (Text.trim name)).1 = (peel name).1 ∧
      Text.trim (peel (Text.trim name)).2 = Text.trim (peel name).2 := by
  cases hitem : itemName? name with
  | some item =>
      have htrim : itemName? (Text.trim name) = some item := by rw [itemName?_trim, hitem]
      rw [peel_of_item hitem, peel_of_item htrim]
      exact ⟨rfl, rfl⟩
  | none =>
      have htrim : itemName? (Text.trim name) = none := by rw [itemName?_trim, hitem]
      rw [peel_of_not_collection hitem, peel_of_not_collection htrim]
      exact ⟨rfl, Text.trim_trim name⟩

/-- Whether the name of a type leads past the elements of a model: to a collection, or to a type
that every model knows. -/
def IsBuiltIn (name : String) : Prop :=
  isCollection name = true ∨ Text.trimmed name = "Edm.Untyped" ∨
    (Primitive.ofName? (Text.trimmed name)).isSome = true

instance (name : String) : Decidable (IsBuiltIn name) :=
  inferInstanceAs (Decidable (_ ∨ _ ∨ _))

end Name

/-- The element at the bottom of a type, where there is one. -/
def ModelType.element? : ModelType → Option Element
  | structured type => some (.structured type)
  | enum type => some (.enum type)
  | definition type => some (.definition type)
  | collection item => item.element?
  | _ => none

namespace Model

variable {model : Model} {element : Element} {type : ModelType} {name : String}

/-! ### Names of types -/

/-- The name of a collection leads to the collection of what the name of its items leads to. -/
theorem resolveType_collection (model : Model) (name : String) :
    model.resolveType ("Collection(" ++ name ++ ")") = .collection (model.resolveType name) := by
  have hname : ("Collection(" ++ name ++ ")").toList =
      Name.collectionMark ++ name.toList ++ [')'] := by
    rw [String.toList_append, String.toList_append]
    rfl
  obtain ⟨hlayers, hinner⟩ := Name.peel_trim name.toList
  simp only [resolveType, resolve, hname, Name.peel_of_item (Name.itemName?_collection _), hlayers,
    hinner]
  rfl

theorem resolveType_of_not_collection (h : Name.isCollection name = false) :
    model.resolveType name =
      (model.resolveNamed (Text.trimmed name) {}).value.follow (some model) := by
  have hitem : Name.itemName? name.toList = none := by
    simpa [Name.isCollection, Name.collectionItem?] using h
  simp only [resolveType, resolve, Name.peel_of_not_collection hitem, Resolved.map,
    TypeReference.wrap, Text.trimmed]

theorem resolveType_of_isCollection (h : Name.isCollection name = true) :
    ∃ item, model.resolveType name = .collection item := by
  obtain ⟨item, hitem⟩ : ∃ item, Name.itemName? name.toList = some item := by
    simpa [Name.isCollection, Name.collectionItem?, Option.isSome_iff_exists] using h
  simp only [resolveType, resolve, Name.peel_of_item hitem]
  exact ⟨_, rfl⟩

/-- The numbers of the types of a name, in the order of the elements. -/
theorem Indexed.typeIdsOf_eq (h : model.Indexed) (name : String) :
    model.typeIdsOf name =
      ((model.elements.filter fun element =>
        element.fullName = model.normalize (Text.trimmed name)).filter fun element =>
          element.kind.isType).map Element.id := by
  rw [typeIdsOf, h.idsOf_eq, List.filter_map]
  refine congrArg _ (List.filter_congr fun element hmem => ?_)
  have helement := h.element?_id (List.mem_of_mem_filter hmem)
  simp [helement]

/-- Only an element itself is the type that it is. -/
theorem ofElement_eq_iff (h : element.type? = some type) {other : Option Element} :
    TypeReference.ofElement other = type ↔ other = some element := by
  cases element with
  | structured | enum | definition =>
      obtain rfl := Option.some.inj h
      constructor
      · intro hother
        unfold TypeReference.ofElement at hother
        split at hother <;> simp_all
      · rintro rfl
        rfl
  | operation | term | container => contradiction

/-- The type that an element is has the element at its bottom, and is no collection. -/
theorem element?_of_type? (h : element.type? = some type) :
    type.element? = some element ∧ type.isCollection = false := by
  cases element with
  | structured | enum | definition =>
      obtain rfl := Option.some.inj h
      exact ⟨rfl, rfl⟩
  | operation | term | container => contradiction

/-- What is built in is the type that no element is. -/
theorem resolveType_ne_of_isBuiltIn (htype : element.type? = some type)
    (h : Name.IsBuiltIn name) : model.resolveType name ≠ type := by
  rintro rfl
  obtain ⟨helement, hnot⟩ := element?_of_type? htype
  cases hcollection : Name.isCollection name with
  | true =>
      obtain ⟨item, hitem⟩ : ∃ item, model.resolveType name = .collection item :=
        resolveType_of_isCollection hcollection
      rw [hitem] at hnot
      cases hnot
  | false =>
      -- The other names that are built in lead to types without an element.
      rw [resolveType_of_not_collection hcollection, resolveNamed] at helement
      rcases h with htrue | huntyped | hprimitive
      · exact absurd htrue (by simp [hcollection])
      · rw [if_pos huntyped] at helement
        cases helement
      · obtain ⟨primitive, hprimitive⟩ := Option.isSome_iff_exists.1 hprimitive
        rw [hprimitive] at helement
        split at helement <;> cases helement

/-- A name that is not built in leads to the element that has the only number of a type of that
name, and to a placeholder where there is not exactly one. -/
theorem resolveType_of_not_isBuiltIn (model : Model) (h : ¬ Name.IsBuiltIn name) :
    (∃ id, model.typeIdsOf (Text.trimmed name) = [id] ∧
      model.resolveType name = TypeReference.ofElement (model.element? id)) ∨
    (∀ id, model.typeIdsOf (Text.trimmed name) ≠ [id]) ∧
      ∃ placeholder, model.resolveType name = .bad placeholder := by
  simp only [Name.IsBuiltIn, not_or, Bool.not_eq_true, Option.isSome_eq_false_iff,
    Option.isNone_iff_eq_none] at h
  obtain ⟨hcollection, huntyped, hprimitive⟩ := h
  rw [resolveType_of_not_collection hcollection, resolveNamed, if_neg huntyped]
  simp only [hprimitive]
  split
  · rename_i id hids
    exact .inl ⟨id, hids, rfl⟩
  · rename_i hids
    exact .inr ⟨by simp [hids], _, rfl⟩
  · rename_i hmany _
    exact .inr ⟨hmany, _, rfl⟩

/-- A name leads to the type that an element is exactly if it is not built in, and the element has
the only number of a type of that name. -/
theorem resolveType_eq_iff (hindexed : model.Indexed) (hmem : element ∈ model.elements)
    (htype : element.type? = some type) :
    model.resolveType name = type ↔
      ¬ Name.IsBuiltIn name ∧ model.typeIdsOf (Text.trimmed name) = [element.id] := by
  constructor
  · intro h
    have hbuiltIn : ¬ Name.IsBuiltIn name :=
      fun hbuiltIn => resolveType_ne_of_isBuiltIn htype hbuiltIn h
    refine ⟨hbuiltIn, ?_⟩
    rcases model.resolveType_of_not_isBuiltIn hbuiltIn with
      ⟨id, hids, hresolved⟩ | ⟨-, placeholder, hresolved⟩
    · have hfound := (ofElement_eq_iff htype).1 (hresolved.symm.trans h)
      rw [hids, hindexed.numbered id element hfound]
    · obtain ⟨helement, -⟩ := element?_of_type? htype
      rw [← h, hresolved] at helement
      cases helement
  · rintro ⟨hbuiltIn, hids⟩
    rcases model.resolveType_of_not_isBuiltIn hbuiltIn with ⟨id, hsingle, hresolved⟩ | ⟨hmany, -⟩
    · rw [hids, List.singleton_inj] at hsingle
      rw [hresolved, ← hsingle]
      exact (ofElement_eq_iff htype).2 (hindexed.element?_id hmem)
    · exact absurd hids (hmany _)

/-! ### Names of elements -/

/-- A look-up takes the name as it is: it is the same without the blanks at its ends, and with the
namespace in place of a short name in front of its last dot. -/
def KeepsName (model : Model) (name : String) : Prop :=
  model.normalize (Text.trimmed name) = name

instance (model : Model) (name : String) : Decidable (model.KeepsName name) :=
  inferInstanceAs (Decidable (_ = _))

/-- An element is found under its qualified name exactly if a look-up takes the name as it is. -/
theorem mem_find_fullName_iff (hindexed : model.Indexed) (hmem : element ∈ model.elements) :
    element ∈ model.find element.fullName ↔ model.KeepsName element.fullName := by
  rw [hindexed.find_eq_matching, KeepsName]
  constructor
  · intro h
    obtain ⟨-, hname | ⟨hcase, -⟩⟩ := mem_matching h
    · exact hname.symm
    · contradiction
  · intro hname
    rw [hname, matching]
    split
    · rename_i hnone
      have hnot := List.filter_eq_nil_iff.1 hnone element hmem
      exact absurd (decide_eq_true rfl) hnot
    · exact List.mem_filter.2 ⟨hmem, decide_eq_true rfl⟩

/-- A qualified name with no blanks at its ends and no dot in its simple name is taken as it is
exactly if its namespace is not a short name for another one. -/
theorem keepsName_fullName_iff (htrimmed : Text.trimmed element.fullName = element.fullName)
    (hsimple : '.' ∉ element.name.toList) :
    model.KeepsName element.fullName ↔
      ∀ namespaceName, model.aliased? element.namespaceName = some namespaceName →
        namespaceName = element.namespaceName := by
  have hsplit : Name.split element.fullName = (element.namespaceName, element.name) :=
    Name.split_qualify _ hsimple
  simp only [KeepsName, htrimmed, normalize, hsplit]
  cases hshort : model.aliased? element.namespaceName with
  | none => simp
  | some namespaceName =>
      simp only [Option.some.injEq, forall_eq']
      constructor
      · intro hname
        have hagain := congrArg Name.split hname
        rw [Name.split_qualify _ hsimple, hsplit] at hagain
        exact (Prod.mk.inj hagain).1
      · rintro rfl
        rfl

/-! ### Clean models -/

theorem duplicateErrors_eq_nil (hclean : model.validate = []) (hmem : element ∈ model.elements)
    (htype : element.type? = some type) :
    ∃ location, model.duplicateErrors element location = [] := by
  have herrors := elementErrors_eq_nil hclean hmem
  cases element with
  | structured node =>
      simp only [elementErrors, structuredErrors, StructuredType.gatherErrors,
        List.append_eq_nil_iff] at herrors
      exact ⟨_, herrors.1.1.1.1.2⟩
  | enum node =>
      simp only [elementErrors, EnumType.errorsIn, List.append_eq_nil_iff] at herrors
      exact ⟨_, herrors.1.1⟩
  | definition node =>
      simp only [elementErrors, TypeDefinition.errorsIn, List.append_eq_nil_iff] at herrors
      exact ⟨_, herrors.1⟩
  | operation | term | container => contradiction

/-- Elements of one name may share it where one of them has no problem with that. -/
theorem mayShare_of_duplicateErrors (hindexed : model.Indexed) {location : Declared.Location}
    (h : model.duplicateErrors element location = []) {other : Element}
    (hother : other ∈ model.elements) (hname : other.fullName = element.fullName) :
    other.id = element.id ∨ element.kind.mayShare other.kind = true := by
  have hfound : other.id ∈ (model.index.find? element.fullName).getD [] := by
    rw [hindexed.find?_index]
    exact List.mem_map_of_mem (List.mem_filter.2 ⟨hother, decide_eq_true hname⟩)
  simp only [duplicateErrors] at h
  split at h
  · contradiction
  · rename_i hclashes
    by_contra hboth
    rw [not_or, Bool.not_eq_true] at hboth
    refine hclashes (List.any_eq_true.2 ⟨other.id, hfound, ?_⟩)
    simp [hboth, hindexed.element?_id hother]

/-- In a model without problems a type shares its qualified name with nothing. -/
theorem eq_of_fullName_eq (hindexed : model.Indexed) (hclean : model.validate = [])
    (hmem : element ∈ model.elements) (htype : element.type? = some type) {other : Element}
    (hother : other ∈ model.elements) (hname : other.fullName = element.fullName) :
    other = element := by
  obtain ⟨location, herrors⟩ := duplicateErrors_eq_nil hclean hmem htype
  rcases mayShare_of_duplicateErrors hindexed herrors hother hname with hid | hshare
  · exact hindexed.eq_of_id_eq hother hmem hid
  · -- Only operations share their names.
    have hkind := (isType_of_type? htype).1
    have hoperation := (Bool.and_eq_true_iff.1 hshare).2
    cases hkind' : element.kind <;> rw [hkind'] at hkind hoperation <;> contradiction

/-- In a model without problems the qualified name of a type has one number, that of the type, if a
look-up takes it as it is. -/
theorem typeIdsOf_fullName_iff (hindexed : model.Indexed) (hclean : model.validate = [])
    (hmem : element ∈ model.elements) (htype : element.type? = some type) :
    model.typeIdsOf (Text.trimmed element.fullName) = [element.id] ↔
      model.KeepsName element.fullName := by
  rw [hindexed.typeIdsOf_eq, Text.trimmed_trimmed, KeepsName]
  constructor
  · intro h
    have hid : element.id ∈ [element.id] := List.mem_singleton_self _
    rw [← h] at hid
    obtain ⟨other, hother, hsame⟩ := List.mem_map.1 hid
    obtain ⟨hother, hname⟩ := List.mem_filter.1 (List.mem_filter.1 hother).1
    rw [hindexed.eq_of_id_eq hother hmem hsame] at hname
    exact (of_decide_eq_true hname).symm
  · intro hname
    have honly : ∀ other ∈ model.elements,
        (other.kind.isType && decide (other.fullName = element.fullName)) =
          decide (other = element) := by
      intro other hother
      rw [Bool.eq_iff_iff, Bool.and_eq_true, decide_eq_true_eq, decide_eq_true_eq]
      constructor
      · rintro ⟨-, hsame⟩
        exact eq_of_fullName_eq hindexed hclean hmem htype hother hsame
      · rintro rfl
        exact ⟨(isType_of_type? htype).1, rfl⟩
    rw [hname, List.filter_filter, List.filter_congr honly, List.filter_eq,
      List.count_eq_one_of_mem hindexed.nodup_elements hmem]
    rfl

/-- In a model without problems the qualified name of a type leads to the type, if a look-up takes
the name as it is and it is not built in. -/
theorem resolveType_own_iff (hindexed : model.Indexed) (hclean : model.validate = [])
    (hmem : element ∈ model.elements) (htype : element.type? = some type) :
    model.resolveType element.fullName = type ↔
      model.KeepsName element.fullName ∧ ¬ Name.IsBuiltIn element.fullName := by
  rw [resolveType_eq_iff hindexed hmem htype, typeIdsOf_fullName_iff hindexed hclean hmem htype]
  exact and_comm

theorem resolveType_primitive (primitive : Primitive) :
    model.resolveType primitive.name = .primitive primitive := by
  have hnames : ∀ primitive ∈ Primitive.all, Name.isCollection primitive.name = false ∧
      Text.trimmed primitive.name = primitive.name ∧ primitive.name ≠ "Edm.Untyped" ∧
      Primitive.ofName? primitive.name = some primitive := by decide +kernel
  have hmem : primitive ∈ Primitive.all := by cases primitive <;> decide
  obtain ⟨hcollection, htrimmed, huntyped, hprimitive⟩ := hnames primitive hmem
  rw [resolveType_of_not_collection hcollection, htrimmed, resolveNamed, if_neg huntyped]
  simp only [hprimitive]
  rfl

theorem resolveType_untyped : model.resolveType "Edm.Untyped" = .untyped := by
  have hname : Name.isCollection "Edm.Untyped" = false ∧
      Text.trimmed "Edm.Untyped" = "Edm.Untyped" := by decide +kernel
  rw [resolveType_of_not_collection hname.1, hname.2, resolveNamed, if_pos rfl]
  rfl

/-- In a model without problems the name of any type leads back to the type, if the name of the
element at its bottom does. -/
theorem resolveType_fullName_iff (hindexed : model.Indexed) (hclean : model.validate = [])
    (hwithin : type.Within model) (hfound : type.isBad = false) :
    model.resolveType type.fullName = type ↔
      ∀ element, type.element? = some element →
        model.KeepsName element.fullName ∧ ¬ Name.IsBuiltIn element.fullName := by
  induction type with
  | primitive primitive => simp [ModelType.fullName, resolveType_primitive, ModelType.element?]
  | untyped => simp [ModelType.fullName, resolveType_untyped, ModelType.element?]
  | collection item ih =>
      rw [ModelType.fullName, resolveType_collection, ModelType.collection.injEq]
      exact ih hwithin hfound
  | bad => contradiction
  | structured node | enum node | definition node =>
      have hown := resolveType_own_iff hindexed hclean hwithin rfl
      simp only [ModelType.element?, Option.some.injEq, forall_eq']
      exact hown

/-- In a model without problems, every element is found under its qualified name exactly if a
look-up takes the name as it is, which is a matter of its namespace alone where there is nothing
unusual about the name; a type is what its qualified name leads to exactly if, besides, the name is
not built in; and what any text leads to is what its own name leads to, exactly if the name of the
element at its bottom is such a name. -/
theorem resolveType_fullName (description : Declared.Description)
    (hclean : (ofDescription description).validate = []) :
    let model := ofDescription description
    (∀ element ∈ model.elements,
      element ∈ model.find element.fullName ↔ model.KeepsName element.fullName) ∧
    (∀ element ∈ model.elements, Text.trimmed element.fullName = element.fullName →
      '.' ∉ element.name.toList →
        (model.KeepsName element.fullName ↔
          ∀ namespaceName, model.aliased? element.namespaceName = some namespaceName →
            namespaceName = element.namespaceName)) ∧
    (∀ element ∈ model.elements, ∀ type, element.type? = some type →
      (model.resolveType element.fullName = type ↔
        model.KeepsName element.fullName ∧ ¬ Name.IsBuiltIn element.fullName)) ∧
    ∀ text, (model.resolveType text).isBad = false →
      (model.resolveType (model.resolveType text).fullName = model.resolveType text ↔
        ∀ element, (model.resolveType text).element? = some element →
          model.KeepsName element.fullName ∧ ¬ Name.IsBuiltIn element.fullName) := by
  intro model
  have hindexed : model.Indexed := indexed_ofDescription description
  refine ⟨?_, ?_, ?_, ?_⟩
  · intro element hmem
    exact mem_find_fullName_iff hindexed hmem
  · intro element hmem htrimmed hsimple
    exact keepsName_fullName_iff htrimmed hsimple
  · intro element hmem type htype
    exact resolveType_own_iff hindexed hclean hmem htype
  · intro text hfound
    exact resolveType_fullName_iff hindexed hclean (TypeReference.follow_within _) hfound

/-- Books and their languages, in a namespace with a short name, and two functions of one name on
them. -/
def library : Declared.Description where
  schemas := [{
    namespaceName := "Public.Library", shortName := some "L"
    entityTypes := [{
      name := "Book", key := some ["Id"]
      properties := [
        { name := "Id", typeName := "Edm.Int32" },
        { name := "Languages", typeName := "Collection(L.Language)" }] }]
    enumTypes := [{ name := "Language", members := [{ name := "Latin" }, { name := "Greek" }] }]
    functions := [
      { name := "Find", returnType := some { typeName := "L.Book" }
        parameters := [{ name := "id", typeName := "Edm.Int32" }] },
      { name := "Find", returnType := some { typeName := "L.Book" }
        parameters := [{ name := "title", typeName := "Edm.String" }] }] }]

/-- All elements of the library are found, and collections of books under the name that they have
and the one that is written. -/
theorem resolveType_fullName_books :
    let model := ofDescription library
    model.validate = [] ∧
      (∀ element ∈ model.elements, element ∈ model.find element.fullName) ∧
      (model.resolveType "Collection(L.Book)").fullName = "Collection(Public.Library.Book)" ∧
      model.resolveType (model.resolveType "Collection(L.Book)").fullName =
        model.resolveType "Collection(L.Book)" := by
  intro model
  have hclean : model.validate = [] := by decide +kernel
  have hplain : ∀ element ∈ model.elements, Text.trimmed element.fullName = element.fullName ∧
      '.' ∉ element.name.toList ∧ ∀ namespaceName ∈ model.aliased? element.namespaceName,
        namespaceName = element.namespaceName := by decide +kernel
  obtain ⟨hfind, hkeeps, -, hback⟩ := resolveType_fullName library hclean
  have hfound : (model.resolveType "Collection(L.Book)").isBad = false := by decide +kernel
  refine ⟨hclean, ?_, by decide +kernel, ?_⟩
  · intro element hmem
    obtain ⟨htrimmed, hsimple, hshort⟩ := hplain element hmem
    exact (hfind element hmem).2 ((hkeeps element hmem htrimmed hsimple).2 hshort)
  · refine (hback _ hfound).2 ?_
    show ∀ element ∈ (model.resolveType "Collection(L.Book)").element?,
      model.KeepsName element.fullName ∧ ¬ Name.IsBuiltIn element.fullName
    decide +kernel

/-- A type in a namespace whose name is a short name for another one. -/
def shadowedNamespace : Declared.Description where
  schemas := [
    { namespaceName := "A", shortName := some "B" },
    { namespaceName := "B", complexTypes := [{ name := "T" }] }]

/-- A type whose name ends with a blank. -/
def blankAtEnd : Declared.Description where
  schemas := [{ namespaceName := "N", complexTypes := [{ name := "T " }] }]

/-- A type that has the name of a primitive type, in a namespace with a short name. -/
def shadowedType : Declared.Description where
  schemas := [{
    namespaceName := "Edm", shortName := some "E", complexTypes := [{ name := "String" }] }]

/-- A model without problems is not enough: an element is not found under a name that begins with a
short name for something else or ends with a blank, and neither is a type under the name of a
primitive type, whatever name leads to it. -/
theorem not_resolveType_fullName :
    (∀ description ∈ [shadowedNamespace, blankAtEnd],
      let model := ofDescription description
      model.validate = [] ∧
        ¬ ∀ element ∈ model.elements, element ∈ model.find element.fullName) ∧
    let model := ofDescription shadowedType
    model.validate = [] ∧
      (¬ ∀ element ∈ model.elements, ∀ type ∈ element.type?,
        model.resolveType element.fullName = type) ∧
      ¬ ∀ text, (model.resolveType text).isBad = false →
        model.resolveType (model.resolveType text).fullName = model.resolveType text := by
  refine ⟨by decide +kernel, by decide +kernel, by decide +kernel, ?_⟩
  intro hback
  have hshort := hback "E.String" (by decide +kernel)
  revert hshort
  decide +kernel

end Model
end ResourcePaths

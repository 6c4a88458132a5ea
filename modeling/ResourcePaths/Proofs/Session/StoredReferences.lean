import ResourcePaths.Proofs.Session.Dropped

/-!
# Stored references

While a model is built, its elements are numbered by their places, and the numbers go into the index
of names, from there into the references that are stored, and later from those to the elements
again.  Nothing is lost on this way: every number of the index is that of an element of its name,
every number in a reference that the model resolves is that of a type, and each stored reference can
be followed to its end as long as the model lives, whatever has been read before.
-/

namespace ResourcePaths

namespace TypeReference

/-- What a reference refers to below its layers of collections. -/
def bottom : TypeReference → TypeReference
  | collection item => item.bottom
  | other => other

/-- What may be at the bottom of a stored reference: a type that needs no element, a placeholder, or
the number of a type in the table of the elements. -/
inductive Grounded (model : Model) : TypeReference → Prop where
  | primitive (type : Primitive) : Grounded model (.primitive type)
  | untyped : Grounded model .untyped
  | bad (placeholder : Placeholder) : Grounded model (.bad placeholder)
  | element {id : ElementId} (inside : id < model.elements.length)
      (isType : model.elements[id].kind.isType = true) : Grounded model (.element id)

/-- Following a reference through the elements of a model.  No rule is there for a number without an
element, and none for an element that is not a type. -/
inductive LeadsTo (model : Model) : TypeReference → ModelType → Prop where
  | primitive (type : Primitive) : LeadsTo model (.primitive type) (.primitive type)
  | untyped : LeadsTo model .untyped .untyped
  | bad (placeholder : Placeholder) : LeadsTo model (.bad placeholder) (.bad placeholder)
  | element {id : ElementId} {type : ModelType} (inside : id < model.elements.length)
      (isType : model.elements[id].type? = some type) : LeadsTo model (.element id) type
  | collection {item : TypeReference} {type : ModelType} (inner : LeadsTo model item type) :
      LeadsTo model (.collection item) (.collection type)

variable {model : Model} {reference : TypeReference}

theorem RefersToTypes.grounded (h : reference.RefersToTypes model) :
    Grounded model reference.bottom := by
  induction reference with
  | element id =>
      obtain ⟨element, helement, htype⟩ := h
      obtain ⟨inside, rfl⟩ := List.getElem?_eq_some_iff.1 helement
      exact .element inside htype
  | collection item ih => exact ih h
  | primitive type => exact .primitive type
  | untyped => exact .untyped
  | bad placeholder => exact .bad placeholder

/-- A reference to types is followed to its end. -/
theorem RefersToTypes.leadsTo (h : reference.RefersToTypes model) :
    reference.LeadsTo model (reference.follow (some model)) := by
  induction reference with
  | element id =>
      obtain ⟨element, helement, htype⟩ := h
      obtain ⟨inside, rfl⟩ := List.getElem?_eq_some_iff.1 helement
      show LeadsTo model (.element id) (ofElement (model.element? id))
      rw [helement]
      exact .element inside (by rw [Element.type?_eq, if_pos htype])
  | collection item ih => exact .collection (ih h)
  | primitive type => exact .primitive type
  | untyped => exact .untyped
  | bad placeholder => exact .bad placeholder

/-- A reference that can be followed to its end: at its bottom there is nothing that has to be looked
up, or a type among the elements, and nothing goes wrong on the way to it. -/
structure Materializes (model : Model) (reference : TypeReference) : Prop where
  grounded : Grounded model reference.bottom
  leadsTo : reference.LeadsTo model (reference.follow (some model))

theorem RefersToTypes.materializes (h : reference.RefersToTypes model) :
    reference.Materializes model :=
  ⟨h.grounded, h.leadsTo⟩

end TypeReference

/-! ### The numbers in the index -/

namespace NameIndex

theorem mem_entries_of_find? {index : NameIndex} {name : String} {ids : List ElementId}
    {id : ElementId} (h : index.find? name = some ids) (hid : id ∈ ids) :
    (name, id) ∈ index.entries := by
  obtain ⟨front, back, rfl, -⟩ := List.lookup_eq_some_iff.1 h
  refine List.mem_flatMap.2 ⟨(name, ids), ?_, List.mem_map.2 ⟨id, hid, rfl⟩⟩
  exact List.mem_append_right _ List.mem_cons_self

theorem exists_entry_of_mem_alike {index : NameIndex} {name : String} {id : ElementId}
    (h : id ∈ index.alike name) : ∃ found, (found, id) ∈ index.entries := by
  obtain ⟨⟨found, _⟩, hentry, rfl⟩ := List.mem_map.1 ((index.alike_perm name).mem_iff.1 h)
  exact ⟨found, List.mem_of_mem_filter hentry⟩

end NameIndex

namespace Model

variable {model : Model}

/-- Each number of the index is in the table, at an element of its name. -/
theorem Indexed.inside_of_mem_entries (h : model.Indexed) {name : String} {id : ElementId}
    (hentry : (name, id) ∈ model.index.entries) :
    ∃ inside : id < model.elements.length, model.elements[id].fullName = name := by
  rw [h.index_eq] at hentry
  obtain ⟨element, hmem, heq⟩ :=
    List.mem_map.1 ((NameIndex.entries_ofElements model.elements).mem_iff.1 hentry)
  obtain ⟨rfl, rfl⟩ := Prod.mk.inj heq
  obtain ⟨inside, hfound⟩ := List.getElem?_eq_some_iff.1 (h.element?_id hmem)
  exact ⟨inside, by rw [hfound]⟩

/-- A look-up gives numbers of the table only. -/
theorem Indexed.lt_of_mem_idsOf (h : model.Indexed) {name : String} {ignoreCase : Bool}
    {id : ElementId} (hid : id ∈ model.idsOf name ignoreCase) : id < model.elements.length := by
  simp only [idsOf] at hid
  split at hid
  · rename_i ids hfind
    exact (h.inside_of_mem_entries (NameIndex.mem_entries_of_find? hfind hid)).1
  · split at hid
    · obtain ⟨found, hentry⟩ := NameIndex.exists_entry_of_mem_alike hid
      exact (h.inside_of_mem_entries hentry).1
    · contradiction

theorem kind_of_structured? {element : Element} {type : StructuredType}
    (h : element.structured? = some type) : element.kind = type.kind.elementKind := by
  cases element with
  | structured node =>
      obtain rfl := Option.some.inj h
      rfl
  | enum | definition | operation | term | container => contradiction

/-- What a name of a structured type is resolved to: the number of such a type of the kind that is
asked for, or a placeholder. -/
theorem resolveStructured_cases (model : Model) (name : String) (kind : StructuredKind)
    (location : Declared.Location) (use : StructuredUse) :
    (∃ id, ∃ inside : id < model.elements.length,
      (model.resolveStructured name kind location use).value = .element id ∧
        model.elements[id].kind = kind.elementKind) ∨
    ∃ placeholder, (model.resolveStructured name kind location use).value = .bad placeholder := by
  simp only [resolveStructured]
  split
  · rename_i id hid
    split
    · rename_i type htype
      split
      · rename_i hkind
        obtain ⟨element, helement, hstructured⟩ := Option.bind_eq_some_iff.1 htype
        obtain ⟨inside, hfound⟩ := List.getElem?_eq_some_iff.1 helement
        exact .inl ⟨id, inside, hid, by rw [hfound, kind_of_structured? hstructured, hkind]⟩
      · exact .inr ⟨_, rfl⟩
    · exact .inr ⟨_, rfl⟩
  · exact .inr ⟨_, rfl⟩
  · exact .inr ⟨_, rfl⟩

end Model

namespace Session

/-- While the model lives, what a name of a type is resolved to can be followed to its end, as can
all that a session keeps, whatever has been asked of it; where a structured type is asked for, it is
the number of one of that kind, or a placeholder.  Every number in the index, and so every number
that a look-up gives, is in the table of the elements. -/
theorem references_of_live_model (description : Declared.Description) :
    let model := Model.ofDescription description
    (∀ text location, (model.resolve text location).value.Materializes model) ∧
    (∀ text kind location use,
      (model.resolveStructured text kind location use).value.Materializes model ∧
      ((∃ id, ∃ inside : id < model.elements.length,
          (model.resolveStructured text kind location use).value = .element id ∧
            model.elements[id].kind = kind.elementKind) ∨
        ∃ placeholder,
          (model.resolveStructured text kind location use).value = .bad placeholder)) ∧
    (∀ (asked : List Query) (holder : TypeHolder) value reference,
      ((start model).after asked).memory.find? holder.cell = some value →
        holder.stored value = some reference → reference.Materializes model) ∧
    (∀ name ids, model.index.find? name = some ids → ∀ id ∈ ids,
      ∃ inside : id < model.elements.length, model.elements[id].fullName = name) ∧
    ∀ name ignoreCase, ∀ id ∈ model.idsOf name ignoreCase, id < model.elements.length := by
  intro model
  have hindexed : model.Indexed := Model.indexed_ofDescription description
  refine ⟨?_, ?_, ?_, ?_, ?_⟩
  · intro text location
    exact (model.refersToTypes_resolve text location).materializes
  · intro text kind location use
    exact ⟨(model.refersToTypes_resolveStructured text kind location use).materializes,
      model.resolveStructured_cases text kind location use⟩
  · intro asked holder value reference hfound hstored
    -- A live session keeps what the model derives, and that is a reference to types.
    rw [(live_after model asked).derived holder.cell value hfound] at hstored
    exact (holder.refersToTypes_of_stored hstored).materializes
  · intro name ids hfind id hid
    exact hindexed.inside_of_mem_entries (NameIndex.mem_entries_of_find? hfind hid)
  · intro name ignoreCase id hid
    exact hindexed.lt_of_mem_idsOf hid

/-- Shelves of books, in a namespace with a short name, and a function with the name of a type. -/
def shelves : Declared.Description where
  schemas := [{
    namespaceName := "Public.Library", shortName := some "L"
    entityTypes := [{
      name := "Shelf", key := some ["Id"]
      properties := [
        { name := "Id", typeName := "Edm.Int32" },
        { name := "Books", typeName := "Collection(L.Book)" }] }]
    complexTypes := [{ name := "Book" }]
    functions := [{ name := "Book", returnType := some { typeName := "L.Book" } }] }]

/-- The books of a shelf. -/
def booksOfShelf : Property :=
  .structural ⟨0, 1, { name := "Books", typeName := "Collection(L.Book)" }⟩

/-- Once it has been read, the type of the books is kept by its number in a collection, and has that
number as a complex type, too.  A function of the same name has the other number of that name. -/
theorem references_of_live_model_shelves :
    let model := Model.ofDescription shelves
    let session := (start model).after [.typeOf (.property booksOfShelf)]
    session.memory.find? (.propertyType booksOfShelf) = some ⟨.collection (.element 1), []⟩ ∧
      (TypeReference.collection (.element 1)).Materializes model ∧
      (∃ id, ∃ inside : id < model.elements.length,
        (model.resolveStructured "L.Book" .complex {} .plain).value = .element id ∧
          model.elements[id].kind = .complexType) ∧
      model.index.find? "Public.Library.Book" = some [1, 2] ∧
      ∃ inside : 2 < model.elements.length,
        model.elements[2].fullName = "Public.Library.Book" := by
  intro model session
  obtain ⟨-, hstructured, hkept, hindex, -⟩ := references_of_live_model shelves
  have hfilled : session.memory.find? (.propertyType booksOfShelf) =
      some ⟨.collection (.element 1), []⟩ := by decide +kernel
  have hfound : model.index.find? "Public.Library.Book" = some [1, 2] := by decide +kernel
  refine ⟨hfilled, ?_, ?_, hfound, ?_⟩
  · exact hkept _ (.property booksOfShelf) _ _ hfilled rfl
  · obtain ⟨-, hnumber | ⟨placeholder, hbad⟩⟩ := hstructured "L.Book" .complex {} .plain
    · exact hnumber
    · have hcomplex : (model.resolveStructured "L.Book" .complex {} .plain).value = .element 1 := by
        decide +kernel
      rw [hcomplex] at hbad
      contradiction
  · exact hindex _ _ hfound 2 (by decide)

end Session
end ResourcePaths

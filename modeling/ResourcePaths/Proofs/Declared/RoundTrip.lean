import ResourcePaths.Declared.Json
import ResourcePaths.Proofs.Json.Records
import ResourcePaths.Proofs.Number.Words

/-!
# Descriptions read back

A description that has been written is read back unchanged: every element with every field that is
there, the fields that are left out as they are where they are missing, and expressions to any
depth.  So a value that writes a description, in whatever way, is rewritten at most once: an object
with its members in any order or an array, which writes what the object writes that gives its items
the names of the fields.
-/

namespace ResourcePaths
namespace Declared

open Json (CarriesAll FieldShape IsWhole Shape)

/-! ### Fields of their own kinds -/

section Fields

variable {ρ α : Type} {name : String} {fields : List (FieldShape ρ)} {record before after : ρ}

theorem asInteger_toNat (n : UInt32) :
    ((Json.integer n.toNat).asInteger (Integer.inUnsigned 32)).map
      (fun value => UInt32.ofNat value.toNat) = .ok n := by
  rw [Json.asInteger_integer (Integer.inUnsigned_toNat n)]
  exact congrArg Except.ok n.ofNat_toNat

theorem carriesAll_count {get : ρ → UInt32} {set : ρ → UInt32 → ρ}
    (hrest : CarriesAll record fields (set before (get record)) after) :
    CarriesAll record (count name get set :: fields) before after :=
  .written (fun n : UInt32 => .integer n.toNat) (asInteger_toNat _) hrest

theorem Location.restores : Location.shape.Restores where
  distinct := by decide
  carries _ := .maybeText rfl <| carriesAll_count <| carriesAll_count .nil

theorem carriesAll_location {get : ρ → Location} {set : ρ → Location → ρ}
    (hrest : CarriesAll record fields (set before (get record)) after) :
    CarriesAll record (locationField get set :: fields) before after :=
  .value (Shape.decode_encode Location.restores) hrest

theorem carriesAll_records {shape : Shape α} {get : ρ → List α} {set : ρ → List α → ρ}
    (h : shape.Restores) (hrest : CarriesAll record fields (set before (get record)) after) :
    CarriesAll record (records name shape get set :: fields) before after :=
  .list (Shape.decode_encode h) hrest

theorem asList_strings (names : List String) :
    Json.asList Json.asString (.array (names.map .string)) = .ok names :=
  Json.asList_array fun _ _ => rfl

theorem carriesAll_names {get : ρ → List String} {set : ρ → List String → ρ}
    (hrest : CarriesAll record fields (set before (get record)) after) :
    CarriesAll record (names name get set :: fields) before after :=
  .written (fun names : List String => .array (names.map .string)) (asList_strings _) hrest

end Fields

/-! ### Types, operations and terms -/

theorem Property.restores : Property.shape.Restores where
  distinct := by decide
  carries _ := .needed <| .needed <| .flag <| .maybeText rfl <| carriesAll_location .nil

theorem NavigationProperty.restores : NavigationProperty.shape.Restores where
  distinct := by decide
  carries _ := .needed <| .needed <| .flag <| .maybeText rfl <| .flag <| carriesAll_location .nil

theorem StructuredType.restores : StructuredType.shape.Restores where
  distinct := by decide
  carries _ := .text <| .maybeText rfl <| .flag <| .flag <|
    .option (fun _ => nofun) asList_strings rfl <|
    carriesAll_records Property.restores <|
    carriesAll_records NavigationProperty.restores <| carriesAll_location .nil

theorem asInteger_toInt (n : Int64) :
    ((Json.integer n.toInt).asInteger (Integer.inSigned 64)).map Int64.ofInt = .ok n := by
  rw [Json.asInteger_integer (Integer.inSigned_toInt n)]
  exact congrArg Except.ok (Int64.ofInt_toInt n)

theorem EnumMember.restores : EnumMember.shape.Restores where
  distinct := by decide
  carries _ := .needed <| .option (fun _ => nofun) asInteger_toInt rfl .nil

theorem EnumType.restores : EnumType.shape.Restores where
  distinct := by decide
  carries _ := .text <| .maybeText rfl <| .flag <| carriesAll_records EnumMember.restores <|
    carriesAll_location .nil

theorem TypeDefinition.restores : TypeDefinition.shape.Restores where
  distinct := by decide
  carries _ := .text <| .text <| carriesAll_location .nil

theorem Parameter.restores : Parameter.shape.Restores where
  distinct := by decide
  carries _ := .needed <| .needed <| .flag .nil

theorem ReturnType.restores : ReturnType.shape.Restores where
  distinct := by decide
  carries _ := .needed <| .flag .nil

theorem Operation.restores : Operation.shape.Restores where
  distinct := by decide
  carries _ := .text <| .flag <| .flag <| .maybeText rfl <|
    carriesAll_records Parameter.restores <|
    .option (fun _ => nofun) (Shape.decode_encode ReturnType.restores) rfl <|
    carriesAll_location .nil

theorem Term.restores : Term.shape.Restores where
  distinct := by decide
  carries _ := .text <| .text <| carriesAll_names <| .maybeText rfl <| carriesAll_location .nil

/-! ### Containers -/

theorem Binding.restores : Binding.shape.Restores where
  distinct := by decide
  carries _ := .needed <| .needed .nil

theorem EntitySet.restores : EntitySet.shape.Restores where
  distinct := by decide
  carries _ := .needed <| .needed <| carriesAll_records Binding.restores <| .flag <|
    carriesAll_location .nil

theorem Singleton.restores : Singleton.shape.Restores where
  distinct := by decide
  carries _ := .needed <| .needed <| carriesAll_records Binding.restores <|
    carriesAll_location .nil

theorem ActionImport.restores : ActionImport.shape.Restores where
  distinct := by decide
  carries _ := .needed <| .needed <| .maybeText rfl <| carriesAll_location .nil

theorem FunctionImport.restores : FunctionImport.shape.Restores where
  distinct := by decide
  carries _ := .needed <| .needed <| .maybeText rfl <| .flag <| carriesAll_location .nil

theorem Container.restores : Container.shape.Restores where
  distinct := by decide
  carries _ := .text <| carriesAll_records EntitySet.restores <|
    carriesAll_records Singleton.restores <| carriesAll_records ActionImport.restores <|
    carriesAll_records FunctionImport.restores <| carriesAll_location .nil

/-! ### Expressions -/

theorem ConstantKind.ofName?_name (kind : ConstantKind) :
    ConstantKind.ofName? kind.name = some kind := by
  cases kind <;> decide

theorem ConstantKind.decode_name (kind : ConstantKind) :
    ConstantKind.decode (.string kind.name) = .ok kind := by
  show orWrongShape (ConstantKind.ofName? kind.name) = .ok kind
  rw [ConstantKind.ofName?_name]
  rfl

theorem Constant.restores : Constant.shape.Restores where
  distinct := by decide
  carries _ := .written (fun kind : ConstantKind => .string kind.name)
    (ConstantKind.decode_name _) <| .needed <| carriesAll_location .nil

theorem pathShape_restores : pathShape.Restores where
  distinct := by decide
  carries _ := .needed <| carriesAll_location .nil

theorem operationReferenceShape_restores : operationReferenceShape.Restores where
  distinct := by decide
  carries _ := .needed <| carriesAll_location .nil

theorem collectionShape_restores : collectionShape.Restores where
  distinct := by decide
  carries _ := .written id rfl <| carriesAll_location .nil

theorem nullShape_restores : nullShape.Restores where
  distinct := by decide
  carries _ := carriesAll_location .nil

theorem encodeItems_eq (items : List Expression) :
    encodeItems items = items.map Expression.encode := by
  induction items with
  | nil => rfl
  | cons item rest ih => rw [encodeItems, ih, List.map_cons]

/-- Goes through the expressions inside an expression before the expression itself. -/
theorem Expression.inductionOn {motive : Expression → Prop}
    (constant : ∀ value, motive (.constant value)) (path : ∀ text place, motive (.path text place))
    (operationReference : ∀ name place, motive (.operationReference name place))
    (collection : ∀ items place, (∀ item ∈ items, motive item) → motive (.collection items place))
    (null : ∀ place, motive (.null place)) (expression : Expression) : motive expression :=
  match expression with
  | .constant value => constant value
  | .path text place => path text place
  | .operationReference name place => operationReference name place
  | .collection items place => collection items place fun item _ =>
      inductionOn constant path operationReference collection null item
  | .null place => null place
termination_by sizeOf expression
decreasing_by
  have := List.sizeOf_lt_of_mem ‹item ∈ items›
  simp only [Expression.collection.sizeOf_spec]
  omega

theorem ExpressionForm.decode_tag (inside : Bool) (form : ExpressionForm) :
    ExpressionForm.decode inside (.string form.tag) = .ok form := by
  cases form <;> rfl

/-- Members that may stand behind the tag of an expression: none of them is a tag itself. -/
def Untagged (members : List Json.Member) : Prop :=
  ∀ member ∈ members, ∃ name, member.1 = .ok name ∧ name ≠ tagName ∧ IsWhole member.2

theorem readExpressionMembers_of_untagged {members : List Json.Member} (h : Untagged members) :
    readExpressionMembers true members = .ok () := by
  induction members with
  | nil => rfl
  | cons member rest ih =>
      obtain ⟨⟨name, hname, hother, hwhole⟩, hrest⟩ := List.forall_mem_cons.1 h
      obtain ⟨key, value⟩ := member
      obtain rfl : key = .ok name := hname
      rw [readExpressionMembers, if_neg hother, show value.readFault? = none from hwhole]
      exact ih hrest

theorem occurrences_of_untagged {members : List Json.Member} (h : Untagged members) :
    occurrences tagName members = 0 := by
  rw [occurrences, List.length_eq_zero_iff, List.filter_eq_nil_iff]
  intro member hmember
  obtain ⟨name, hname, hother, -⟩ := h member hmember
  rw [hname]
  simpa using hother

/-- What the members of a shape are that has no tag among its fields. -/
theorem untagged_membersOf {ρ : Type} {shape : Shape ρ} {record : ρ}
    (hnames : tagName ∉ shape.fields.map (·.name))
    (hwhole : ∀ field ∈ shape.fields, field.WritesWhole record) :
    Untagged (Shape.membersOf record shape.fields) := by
  intro member hmember
  obtain ⟨field, hfield, value, hwrite, rfl⟩ := Shape.mem_membersOf hmember
  refine ⟨field.name, rfl, fun heq => hnames ?_, hwhole field hfield value hwrite⟩
  exact heq ▸ List.mem_map_of_mem hfield

/-! ### Forms of expressions -/

/-- The tag in front of other members is read before the rest of an object. -/
theorem readForm_object (inside : Bool) (form : ExpressionForm) {members : List Json.Member}
    (h : Untagged members) :
    readForm inside (.object ((.ok tagName, .string form.tag) :: members)) = .ok form := by
  have hread : readExpressionMembers false ((.ok tagName, .string form.tag) :: members) =
      .ok () := by
    rw [readExpressionMembers, if_pos rfl, ExpressionForm.decode_tag]
    exact readExpressionMembers_of_untagged h
  have honce : occurrences tagName ((.ok tagName, .string form.tag) :: members) = 1 := by
    show List.length (List.filter _ _) = 1
    rw [List.filter_cons_of_pos (by simp), List.length_cons]
    exact congrArg (· + 1) (occurrences_of_untagged h)
  have htag : Json.member? tagName ((.ok tagName, .string form.tag) :: members) =
      some (.string form.tag) := if_pos rfl
  have hok {α β : Type} (value : α) (next : α → Except Json.Fault β) :
      (Except.ok value >>= next) = next value := rfl
  rw [readForm]
  -- Sound members pass whether they are looked through first or not.
  simp only [hread, honce, htag, orWrongShape, ExpressionForm.decode_tag, hok, ne_eq, not_true,
    if_false, ite_self]

theorem readForm_array (inside : Bool) (form : ExpressionForm) {items : List Json}
    (h : ∀ item ∈ items, IsWhole item) :
    readForm inside (.array (.string form.tag :: items)) = .ok form := by
  rw [readForm, ExpressionForm.decode_tag,
    show Json.readItems? items = none from Json.isWhole_array h]
  rfl

/-- The expressions that the items among fields write. -/
def itemsIn (fields : Json) : Except Json.Fault (List Expression) :=
  match itemsOf? fields with
  | some items => items.mapM (Expression.decode true)
  | none => .error .wrongShape

theorem mapM_attach {items : List Json} :
    (items.attach.mapM fun ⟨item, _⟩ => Expression.decode true item) =
      items.mapM (Expression.decode true) := by
  conv_rhs => rw [← List.attach_map_subtype_val items, List.mapM_map]
  rfl

/-- The expression that fields write. -/
def decodeForm (fields : Json) (form : ExpressionForm) : Except Json.Fault Expression :=
  Expression.ofFields fields (fun _ => itemsIn fields) form

/-- An expression is read from the fields behind its tag. -/
theorem Expression.decode_eq {inside : Bool} {json : Json} {form : ExpressionForm}
    (h : readForm inside json = .ok form) :
    decode inside json = (decodeForm (behindTag json) form).mapError fun _ => .wrongShape := by
  rw [decode, h]
  show (ofFields _ (fun _ => _) form).mapError _ = _
  congr 2
  funext _
  unfold itemsIn
  split
  · rename_i items hfound
    rw [hfound, mapM_attach]
  · rename_i hnone
    rw [hnone]

/-- The names of the fields of a form. -/
def ExpressionForm.names : ExpressionForm → List String
  | constant => Constant.shape.fields.map (·.name)
  | path => pathShape.fields.map (·.name)
  | operationReference => operationReferenceShape.fields.map (·.name)
  | collection => collectionShape.fields.map (·.name)
  | null => nullShape.fields.map (·.name)

/-- Fields write the same expression when records with their names cannot tell them apart. -/
theorem decodeForm_congr {form : ExpressionForm} {fields other : Json}
    (hshape : ∀ {ρ : Type} (shape : Shape ρ), shape.fields.map (·.name) = form.names →
      shape.decode fields = shape.decode other)
    (hitems : form = .collection → itemsOf? fields = itemsOf? other) :
    decodeForm fields form = decodeForm other form := by
  unfold decodeForm
  cases form with
  | constant => simp only [Expression.ofFields, hshape Constant.shape rfl]
  | path => simp only [Expression.ofFields, hshape pathShape rfl]
  | operationReference => simp only [Expression.ofFields, hshape operationReferenceShape rfl]
  | collection => simp only [Expression.ofFields, itemsIn, hshape collectionShape rfl, hitems rfl]
  | null => simp only [Expression.ofFields, hshape nullShape rfl]

theorem ExpressionForm.tagName_notMem (form : ExpressionForm) : tagName ∉ form.names := by
  cases form <;> decide

theorem ExpressionForm.nodup_names (form : ExpressionForm) : form.names.Nodup := by
  cases form <;> decide

theorem itemsOf?_tagged {tag : Json} (members : List Json.Member) :
    itemsOf? (.object ((.ok tagName, tag) :: members)) = itemsOf? (.object members) := by
  have hname : tagName ≠ "items" := by decide
  simp only [itemsOf?, Json.member?, hname, if_false]

/-- A sound object with its tag in front writes what its other members write. -/
theorem decode_tagged (inside : Bool) (form : ExpressionForm) {members : List Json.Member}
    (h : Untagged members) :
    Expression.decode inside (.object ((.ok tagName, .string form.tag) :: members)) =
      (decodeForm (.object members) form).mapError fun _ => .wrongShape := by
  rw [Expression.decode_eq (readForm_object inside form h)]
  refine congrArg _ (decodeForm_congr (fun shape hnames => ?_) fun _ => ?_)
  · exact Shape.decode_cons_of_unknown members (hnames ▸ form.tagName_notMem) rfl
  · exact itemsOf?_tagged members

/-- A sound array writes what the object writes that has the first item for a tag and the other ones
under the names of the fields. -/
theorem Expression.decode_array (inside : Bool) {form : ExpressionForm} {items : List Json}
    (hwhole : ∀ item ∈ items, IsWhole item) (hlength : items.length ≤ form.names.length) :
    decode inside (.array (.string form.tag :: items)) =
      decode inside (.object ((.ok tagName, .string form.tag) :: Json.named form.names items)) := by
  have huntagged : Untagged (Json.named form.names items) := by
    intro member hmember
    obtain ⟨name, hname, item, hitem, rfl⟩ := Json.mem_named hmember
    refine ⟨name, rfl, fun htag => form.tagName_notMem ?_, hwhole item hitem⟩
    exact htag ▸ hname
  rw [decode_eq (readForm_array inside form hwhole), decode_tagged inside form huntagged]
  refine congrArg _ (decodeForm_congr (fun shape hnames => ?_) ?_)
  · rw [← hnames]
    refine Shape.decode_array (hnames ▸ form.nodup_names) ?_
    rwa [← hnames, List.length_map] at hlength
  · rintro rfl
    cases items with
    | nil => rfl
    | cons item rest => cases item <;> rfl

/-! ### Expressions read back -/

theorem isWhole_location (location : Location) : IsWhole (Location.shape.encode location) := by
  refine Shape.isWhole_encode ?_
  refine List.forall_mem_cons.2 ⟨FieldShape.writesWhole_maybeText, ?_⟩
  refine List.forall_mem_cons.2 ⟨?_, List.forall_mem_singleton.2 ?_⟩
  · rintro _ ⟨rfl⟩
    rfl
  · rintro _ ⟨rfl⟩
    rfl

theorem writesWhole_location {ρ : Type} {record : ρ} {get : ρ → Location}
    {set : ρ → Location → ρ} : (locationField get set).WritesWhole record :=
  FieldShape.writesWhole_value (isWhole_location _)

theorem untagged_constant (value : Constant) :
    Untagged (Shape.membersOf value Constant.shape.fields) := by
  refine untagged_membersOf (by decide) (List.forall_mem_cons.2 ⟨?_, ?_⟩)
  · rintro _ ⟨rfl⟩
    rfl
  · exact List.forall_mem_cons.2
      ⟨FieldShape.writesWhole_needed, List.forall_mem_singleton.2 writesWhole_location⟩

theorem untagged_path (path : String × Location) :
    Untagged (Shape.membersOf path pathShape.fields) :=
  untagged_membersOf (by decide) <| List.forall_mem_cons.2
    ⟨FieldShape.writesWhole_needed, List.forall_mem_singleton.2 writesWhole_location⟩

theorem untagged_operationReference (reference : String × Location) :
    Untagged (Shape.membersOf reference operationReferenceShape.fields) :=
  untagged_membersOf (by decide) <| List.forall_mem_cons.2
    ⟨FieldShape.writesWhole_needed, List.forall_mem_singleton.2 writesWhole_location⟩

theorem untagged_collection {items : List Json} (h : ∀ item ∈ items, IsWhole item)
    (location : Location) :
    Untagged (Shape.membersOf (.array items, location) collectionShape.fields) := by
  refine untagged_membersOf (by decide) (List.forall_mem_cons.2 ⟨?_, ?_⟩)
  · rintro _ ⟨rfl⟩
    exact Json.isWhole_array h
  · exact List.forall_mem_singleton.2 writesWhole_location

theorem untagged_null (location : Location) :
    Untagged (Shape.membersOf location nullShape.fields) :=
  untagged_membersOf (by decide) (List.forall_mem_singleton.2 writesWhole_location)

theorem isWhole_tagged {form : ExpressionForm} {members : List Json.Member} (h : Untagged members) :
    IsWhole (.object ((.ok tagName, .string form.tag) :: members)) := by
  refine Json.isWhole_object (List.forall_mem_cons.2 ⟨⟨tagName, rfl, rfl⟩, fun member hmember => ?_⟩)
  obtain ⟨name, hname, -, hwhole⟩ := h member hmember
  exact ⟨name, hname, hwhole⟩

theorem Expression.isWhole_encode (expression : Expression) : IsWhole expression.encode := by
  induction expression using Expression.inductionOn with
  | constant value => exact isWhole_tagged (untagged_constant value)
  | path text location => exact isWhole_tagged (untagged_path (text, location))
  | operationReference name location =>
      exact isWhole_tagged (untagged_operationReference (name, location))
  | collection items location ih =>
      rw [encode, encodeItems_eq]
      exact isWhole_tagged (untagged_collection (List.forall_mem_map.2 ih) location)
  | null location => exact isWhole_tagged (untagged_null location)

/-- An expression is read back, wherever it stands and however deep it is. -/
theorem Expression.decode_encode (inside : Bool) (expression : Expression) :
    Expression.decode inside expression.encode = .ok expression := by
  induction expression using Expression.inductionOn generalizing inside with
  | constant value =>
      refine (decode_tagged inside .constant (untagged_constant value)).trans ?_
      rw [decodeForm, Expression.ofFields, ← Shape.encode_eq,
        Shape.decode_encode Constant.restores]
      rfl
  | path text location =>
      refine (decode_tagged inside .path (untagged_path (text, location))).trans ?_
      rw [decodeForm, Expression.ofFields, ← Shape.encode_eq,
        Shape.decode_encode pathShape_restores]
      rfl
  | operationReference name location =>
      refine (decode_tagged inside .operationReference
        (untagged_operationReference (name, location))).trans ?_
      rw [decodeForm, Expression.ofFields, ← Shape.encode_eq,
        Shape.decode_encode operationReferenceShape_restores]
      rfl
  | collection items location ih =>
      have hwhole : ∀ item ∈ items.map Expression.encode, IsWhole item :=
        List.forall_mem_map.2 fun item _ => item.isWhole_encode
      have hitems :
          itemsIn (collectionShape.encode (.array (items.map Expression.encode), location)) =
            .ok items :=
        Json.asList_array fun item hitem => ih item hitem true
      rw [encode, encodeItems_eq]
      refine (decode_tagged inside .collection (untagged_collection hwhole location)).trans ?_
      rw [decodeForm, Expression.ofFields, ← Shape.encode_eq,
        Shape.decode_encode collectionShape_restores, hitems]
      rfl
  | null location =>
      refine (decode_tagged inside .null (untagged_null location)).trans ?_
      rw [decodeForm, Expression.ofFields, ← Shape.encode_eq,
        Shape.decode_encode nullShape_restores]
      rfl

/-! ### Descriptions -/

theorem Annotation.restores : Annotation.shape.Restores where
  distinct := by decide
  carries _ := .needed <| .maybeText rfl <|
    .written Expression.encode (Expression.decode_encode false _) <| carriesAll_location .nil

theorem AnnotationGroup.restores : AnnotationGroup.shape.Restores where
  distinct := by decide
  carries _ := .text <| carriesAll_records Annotation.restores <| carriesAll_location .nil

theorem Schema.restores : Schema.shape.Restores where
  distinct := by decide
  carries _ := .text <| .maybeText rfl <| carriesAll_records StructuredType.restores <|
    carriesAll_records StructuredType.restores <| carriesAll_records EnumType.restores <|
    carriesAll_records TypeDefinition.restores <| carriesAll_records Operation.restores <|
    carriesAll_records Operation.restores <| carriesAll_records Term.restores <|
    carriesAll_records Container.restores <| carriesAll_records AnnotationGroup.restores <|
    carriesAll_location .nil

theorem Description.restores : Description.shape.Restores where
  distinct := by decide
  carries _ := carriesAll_records Schema.restores .nil

namespace Description

/-- The value that writes what another value writes. -/
def rewrite (json : Json) : Except Json.Fault Json :=
  (decode json).map encode

/-- Writing loses nothing: a description is read back from the value that writes it.  Hence a value
that can be read at all writes the same description once it has been rewritten, and rewriting it
again changes nothing. -/
theorem encode_loses_nothing :
    (∀ description : Description, decode description.encode = .ok description) ∧
      ∀ json, (rewrite json >>= decode) = decode json ∧
        (rewrite json >>= rewrite) = rewrite json := by
  have hback (description : Description) : decode description.encode = .ok description :=
    Shape.decode_encode Description.restores description
  refine ⟨hback, fun json => ?_⟩
  simp only [rewrite]
  cases decode json with
  | error fault => exact ⟨rfl, rfl⟩
  | ok description =>
      refine ⟨hback description, ?_⟩
      show (decode description.encode).map encode = _
      rw [hback]

end Description

end Declared
end ResourcePaths

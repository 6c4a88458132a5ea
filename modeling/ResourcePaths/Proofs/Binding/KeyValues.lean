import ResourcePaths.Proofs.Binding.FirstFault
import ResourcePaths.Proofs.Binding.Rendering
import ResourcePaths.Proofs.Literal.Reading

/-!
# Values of keys in paths

A value in parentheses behind the name of an entity set goes through four layers: the grammar of
segments takes it as one value, the grammar of literals reads it, the type of the key property
accepts it, and the bound path writes it again.  They agree on all strings, whatever quotes,
parentheses and separators there are in them, and on the limits of the integral types.
-/

namespace ResourcePaths

namespace Primitive

/-- The least and the greatest integer of an integral type. -/
def limits? : Primitive → Option (Int × Int)
  | byte => some (0, 255)
  | sbyte => some (-128, 127)
  | int16 => some (-32768, 32767)
  | int32 => some (-2147483648, 2147483647)
  | int64 => some (-9223372036854775808, 9223372036854775807)
  | _ => none

variable {primitive : Primitive} {low high : Int}

/-- An integral type accepts the integers between its limits. -/
theorem accepts_integer_iff (hlimits : primitive.limits? = some (low, high)) (word : Int64) :
    primitive.accepts (.integer word) = true ↔ low ≤ word.toInt ∧ word.toInt ≤ high := by
  cases primitive with
  | byte | sbyte | int16 | int32 | int64 =>
      obtain ⟨rfl, rfl⟩ := Prod.mk.inj (Option.some.inj hlimits)
      simp only [accepts, range?, Option.any_some, Integer.inSigned, Integer.inUnsigned,
        Nat.pow_eq, Bool.and_eq_true, decide_eq_true_eq]
      omega
  | binary | boolean | date | dateTimeOffset | decimal | double | duration | guid | single
  | stream | string | timeOfDay => contradiction

/-- No limit lies outside the words. -/
theorem inSigned_of_limits (hlimits : primitive.limits? = some (low, high)) {n : Int}
    (hlow : low ≤ n) (hhigh : n ≤ high) : Integer.inSigned 64 n = true := by
  rw [Integer.inSigned_word_iff]
  cases primitive with
  | byte | sbyte | int16 | int32 | int64 =>
      obtain ⟨rfl, rfl⟩ := Prod.mk.inj (Option.some.inj hlimits)
      omega
  | binary | boolean | date | dateTimeOffset | decimal | double | duration | guid | single
  | stream | string | timeOfDay => contradiction

end Primitive

namespace Binder

variable {binder : Binder} {container : Container} {token : Token} {text : String}

/-! ### A path of one segment -/

theorem bindSegments_single (hcontainer : binder.container = some container)
    (hspells : Chain.Spells text token) (hroom : 1 ≤ binder.settings.maxSegments) :
    binder.bindSegments [text] =
      (faultAt 0 token (binder.bindRoot container token >>= binder.finishStep token)).map
        fun step => ⟨[step]⟩ := by
  have hplain : ∀ other ∈ [token], other.isSystem = false := by
    obtain ⟨identifier, values, -, -, rfl⟩ := hspells
    simp [Token.isSystem]
  rw [bindSegments_of_spells (.cons hspells .nil),
    bindChain_of_plain (List.cons_ne_nil _ _) (show [token].length ≤ _ from hroom) hplain,
    bindTokens_single hcontainer]
  cases faultAt 0 token (binder.bindRoot container token >>= binder.finishStep token) with
  | ok step => rfl
  | error fault => rfl

/-! ### Sets with a key of one property -/

/-- An entity set that is found under its own name and whose entities are told apart by one
property. -/
structure HasSingleKey (binder : Binder) (set : DeclaredSource) (property : StructuralProperty) :
    Prop where
  isSet : set.kind = .entitySet
  name : Token.IsPlainName set.name
  found : ∃ container, binder.container = some container ∧
    container.findEntitySet? set.name binder.settings.ignoreCase = some set
  key : ∃ entity, binder.model.sourceEntity? (.declared set) = some entity ∧
    binder.model.key entity = [property]

/-- The name of a set and a value in parentheses. -/
def keyedText (set : DeclaredSource) (text : String) : String :=
  set.name ++ "(" ++ text ++ ")"

variable {set : DeclaredSource} {property : StructuralProperty}

theorem sourceType_set {entity : StructuredType} (hset : set.kind = .entitySet)
    (hentity : binder.model.sourceEntity? (.declared set) = some entity) :
    binder.model.sourceType (.declared set) = .collection (.structured entity) := by
  have hitem := (Model.entity?_eq_some_iff.1 hentity).1
  simp only [Model.sourceType, DeclaredSource.typeWith, hset, hitem]

/-- The only value of a key belongs to its only property. -/
theorem keyAt_single (h : HasSingleKey binder set property) (text : String) :
    binder.model.keyAt binder.settings.ignoreCase (binder.sourceSegment set.name set).place
        [⟨none, text⟩] =
      (binder.model.keyValue binder.settings.ignoreCase [] property ⟨none, text⟩).map
        fun value => [value] := by
  obtain ⟨entity, hentity, hkey⟩ := h.key
  have hkind := (Model.entity?_eq_some_iff.1 hentity).2
  have hitem : (ModelType.structured entity).entity? = some entity :=
    Model.entity?_eq_some_iff.2 ⟨rfl, hkind⟩
  have hplace : (binder.sourceSegment set.name set).place =
      ⟨some (.structured entity), .collection, some (.declared set)⟩ := by
    rw [sourceSegment, sourceType_set h.isSet hentity]
    rfl
  rw [hplace]
  simp only [Model.keyAt, hitem, Model.entityKey, hkey]
  rw [if_neg (by simp), if_neg (by simp)]
  simp only [Model.keyValues, Model.keyProperty]
  change (binder.model.keyValue binder.settings.ignoreCase [] property ⟨none, text⟩ >>=
    fun value => .ok [value]) = _
  cases binder.model.keyValue binder.settings.ignoreCase [] property ⟨none, text⟩ with
  | ok value => rfl
  | error fault => rfl

theorem spells_keyedText (h : HasSingleKey binder set property)
    (hvalue : RawSegment.IsValue text.toList) :
    Chain.Spells (keyedText set text) (.plain set.name [⟨none, text⟩]) := by
  have hwritable : ∀ value ∈ [NamedValue.mk none text], value.IsWritable := by
    intro value hmem
    obtain rfl := List.mem_singleton.1 hmem
    exact ⟨by simp, hvalue⟩
  have htext : keyedText set text = (Token.plain set.name [⟨none, text⟩]).render := by
    simp only [keyedText, Token.render, Token.renderValues, String.append_assoc]
    rfl
  rw [htext]
  exact Chain.spells_render h.name hwritable

/-- The segments of a set with one value behind its name: what the literal grammar and the type of
the property say about the value decides. -/
theorem bindSegments_keyedText (h : HasSingleKey binder set property)
    (hroom : 1 ≤ binder.settings.maxSegments) (hvalue : RawSegment.IsValue text.toList) :
    binder.bindSegments [keyedText set text] =
      match binder.model.keyValue binder.settings.ignoreCase [] property ⟨none, text⟩ with
      | .ok value => .ok ⟨[⟨binder.sourceSegment set.name set, some [value]⟩]⟩
      | .error fault => .error (.token 0 set.name (.key fault)) := by
  obtain ⟨container, hcontainer, hfound⟩ := h.found
  have hroot : binder.bindRoot container (.plain set.name [⟨none, text⟩]) =
      .ok (binder.sourceSegment set.name set) := by
    have hsource : container.findSource? set.name binder.settings.ignoreCase = some set := by
      rw [Container.findSource?, hfound, Option.some_or]
    simp only [bindRoot, Token.identifier, hsource]
  have hkeyed : binder.bindKey (binder.sourceSegment set.name set)
      (.plain set.name [⟨none, text⟩]) =
        match binder.model.keyValue binder.settings.ignoreCase [] property ⟨none, text⟩ with
        | .ok value => .ok (some [value])
        | .error fault => .error (.key fault) := by
    have hvalues : ((Token.plain set.name [⟨none, text⟩]).values.isEmpty ||
        (binder.sourceSegment set.name set).isCall) = false := rfl
    rw [bindKey, hvalues, if_neg Bool.false_ne_true]
    simp only [Token.values, keyAt_single h text]
    cases binder.model.keyValue binder.settings.ignoreCase [] property ⟨none, text⟩ with
    | ok value => rfl
    | error fault => rfl
  rw [bindSegments_single hcontainer (spells_keyedText h hvalue) hroom, hroot,
    show (Except.ok (binder.sourceSegment set.name set) >>=
      binder.finishStep (.plain set.name [⟨none, text⟩])) = binder.finishStep _ _ from rfl,
    finishStep, hkeyed]
  cases binder.model.keyValue binder.settings.ignoreCase [] property ⟨none, text⟩ with
  | ok value => rfl
  | error fault => rfl

/-- The text of a set and a value binds to the set and to one entity of it, and the path is written
as that very text. -/
def BindsKey (binder : Binder) (set : DeclaredSource) (property : StructuralProperty)
    (text : String) (literal : Literal) : Prop :=
  ∃ path, binder.bindSegments [keyedText set text] = .ok path ∧
    path.segments = [binder.sourceSegment set.name set,
      (binder.sourceSegment set.name set).keyed [⟨property.decl.name, literal, text⟩]] ∧
    path.render = keyedText set text

/-- A literal that fits the type of the key property is the key. -/
theorem bindsKey_of_fits (h : HasSingleKey binder set property)
    (hroom : 1 ≤ binder.settings.maxSegments) (hvalue : RawSegment.IsValue text.toList)
    {literal : Literal} (hliteral : Literal.ofText? text = some literal)
    (hfits : binder.model.fits binder.settings.ignoreCase
      (binder.model.typeOf (.structural property)) literal = true) :
    BindsKey binder set property text literal := by
  have hkey : binder.model.keyValue binder.settings.ignoreCase [] property ⟨none, text⟩ =
      .ok ⟨property.decl.name, literal, text⟩ :=
    Model.keyValue_eq_ok_iff.2 ⟨List.not_mem_nil, literal, hliteral, hfits, rfl⟩
  refine ⟨_, by rw [bindSegments_keyedText h hroom hvalue, hkey], rfl, ?_⟩
  show Text.joined "/" [String.join [set.name, "(" ++ text ++ ")"]] = keyedText set text
  simp [keyedText, Text.joined, String.append_assoc]

/-- A value that is no literal, or none of the type of the key property, is refused as a key of the
first segment. -/
theorem keyFault_of_not_fits (h : HasSingleKey binder set property)
    (hroom : 1 ≤ binder.settings.maxSegments) (hvalue : RawSegment.IsValue text.toList)
    (hnot : ∀ literal ∈ Literal.ofText? text, binder.model.fits binder.settings.ignoreCase
      (binder.model.typeOf (.structural property)) literal = false) :
    ∃ fault, binder.bindSegments [keyedText set text] = .error (.token 0 set.name (.key fault)) := by
  rw [bindSegments_keyedText h hroom hvalue]
  split
  · rename_i value hkey
    obtain ⟨-, literal, hliteral, hfits, -⟩ := Model.keyValue_eq_ok_iff.1 hkey
    rw [hnot literal hliteral] at hfits
    contradiction
  · rename_i fault _
    exact ⟨fault, rfl⟩

/-! ### Strings and integers -/

/-- A quoted text is one value, whatever stands between the quotes. -/
theorem isValue_quote (value : String) :
    RawSegment.IsValue (String.ofList (Literal.quote value)).toList := by
  rw [String.toList_ofList, RawSegment.isValue_iff]
  exact ⟨by simp [Literal.quote, Quoted.write], RawSegment.balanced_write value.toList⟩

theorem isDelimiter_toString (n : Int) :
    ∀ c ∈ (toString n).toList, RawSegment.isDelimiter c = false := by
  have htext := Literal.IntegerText.write_decimal n none (by simp)
  rw [Option.toList_none, List.append_nil] at htext
  intro c hc
  rw [← htext] at hc
  rcases Literal.IntegerText.mem_write hc with hmark | hdigit
  · have hmarks : ∀ c ∈ ['+', '-', 'L', 'l'], RawSegment.isDelimiter c = false := by
      simp [RawSegment.isDelimiter]
    exact hmarks c hmark
  · obtain ⟨hlow, hhigh⟩ := Text.isDigit_iff.1 hdigit
    simp only [RawSegment.isDelimiter, Bool.or_eq_false_iff, decide_eq_false_iff_not]
    refine ⟨⟨⟨⟨?_, ?_⟩, ?_⟩, ?_⟩, ?_⟩
    all_goals
      rintro rfl
      contradiction

theorem isValue_toString (n : Int) : RawSegment.IsValue (toString n).toList := by
  have hne : (toString n).toList ≠ [] := by
    have htext := Literal.IntegerText.write_decimal n none (by simp)
    rw [Option.toList_none, List.append_nil] at htext
    rw [← htext]
    simp [Literal.IntegerText.write, Literal.IntegerText.ne_nil]
  exact (RawSegment.isValue_iff _).2 ⟨hne, RawSegment.balanced_of_all (isDelimiter_toString n)⟩

/-- Strings of all characters and the integers of the type survive as keys of one property, and no
other integer is taken for one. -/
theorem bindSegments_key_values (binder : Binder) (set : DeclaredSource)
    (property : StructuralProperty) (primitive : Primitive)
    (hset : HasSingleKey binder set property) (hroom : 1 ≤ binder.settings.maxSegments)
    (htype : binder.model.typeOf (.structural property) = .primitive primitive) :
    (primitive = .string → ∀ value : String,
      BindsKey binder set property (String.ofList (Literal.quote value)) (.string value)) ∧
    ∀ low high, primitive.limits? = some (low, high) → ∀ n : Int,
      ((∃ word : Int64, word.toInt = n ∧
          BindsKey binder set property (toString n) (.integer word)) ↔ low ≤ n ∧ n ≤ high) ∧
      (¬(low ≤ n ∧ n ≤ high) → ∃ fault, binder.bindSegments [keyedText set (toString n)] =
        .error (.token 0 set.name (.key fault))) := by
  have hfitsType (literal : Literal) : binder.model.fits binder.settings.ignoreCase
      (binder.model.typeOf (.structural property)) literal = primitive.accepts literal := by
    rw [htype]
    rfl
  refine ⟨?_, fun low high hlimits n => ?_⟩
  · rintro rfl value
    exact bindsKey_of_fits hset hroom (isValue_quote value) (Literal.ofText?_quote value)
      (hfitsType (.string value))
  have hrefused : ¬(low ≤ n ∧ n ≤ high) → ∃ fault,
      binder.bindSegments [keyedText set (toString n)] = .error (.token 0 set.name (.key fault)) := by
    intro hout
    refine keyFault_of_not_fits hset hroom (isValue_toString n) fun literal hliteral => ?_
    rw [Literal.ofText?_toString] at hliteral
    obtain ⟨word, hword, rfl⟩ := Option.map_eq_some_iff.1 hliteral
    obtain rfl := Integer.toWord?_eq_some_iff.1 hword
    rw [hfitsType, Bool.eq_false_iff]
    exact fun haccepts => hout ((Primitive.accepts_integer_iff hlimits word).1 haccepts)
  refine ⟨⟨?_, fun hrange => ?_⟩, hrefused⟩
  · rintro ⟨word, -, path, hbind, -⟩
    by_contra hout
    obtain ⟨fault, hfault⟩ := hrefused hout
    rw [hbind] at hfault
    contradiction
  · have hword : Integer.inSigned 64 n = true :=
      Primitive.inSigned_of_limits hlimits hrange.1 hrange.2
    have hsome : Integer.toWord? n = some (Int64.ofInt n) := if_pos hword
    have hvalue : (Int64.ofInt n).toInt = n := Integer.toWord?_eq_some_iff.1 hsome
    refine ⟨Int64.ofInt n, hvalue, bindsKey_of_fits hset hroom (isValue_toString n) ?_ ?_⟩
    · rw [Literal.ofText?_toString, hsome, Option.map_some]
    · rw [hfitsType]
      exact (Primitive.accepts_integer_iff hlimits _).2 (hvalue.symm ▸ hrange)

/-- Books by their titles, and copies of them by their numbers. -/
def shelf : Declared.Description where
  schemas := [{
    namespaceName := "Library"
    entityTypes := [
      { name := "Book", key := some ["Title"]
        properties := [{ name := "Title", typeName := "Edm.String" }] },
      { name := "Copy", key := some ["Number"]
        properties := [{ name := "Number", typeName := "Edm.Byte" }] }]
    containers := [{
      name := "Default"
      entitySets := [
        { name := "Books", entityType := "Library.Book" },
        { name := "Copies", entityType := "Library.Copy" }] }] }]

def shelfBinder : Binder :=
  .ofModel (.ofDescription shelf) {}

def books : DeclaredSource :=
  ⟨2, .entitySet, 0, "Books", "Library.Book", [], true, {}⟩

def copies : DeclaredSource :=
  ⟨2, .entitySet, 1, "Copies", "Library.Copy", [], true, {}⟩

def title : StructuralProperty :=
  ⟨0, 0, { name := "Title", typeName := "Edm.String" }⟩

def number : StructuralProperty :=
  ⟨1, 0, { name := "Number", typeName := "Edm.Byte" }⟩

theorem hasSingleKey_books : HasSingleKey shelfBinder books title where
  isSet := rfl
  name := Token.isPlainName_of_isName (by decide)
  found := by
    have hfound : (shelfBinder.container.bind fun container =>
        container.findEntitySet? "Books" false) = some books := by decide +kernel
    exact Option.bind_eq_some_iff.1 hfound
  key := by
    have hkey : (shelfBinder.model.sourceEntity? (.declared books)).map shelfBinder.model.key =
        some [title] := by decide +kernel
    exact Option.map_eq_some_iff.1 hkey

theorem hasSingleKey_copies : HasSingleKey shelfBinder copies number where
  isSet := rfl
  name := Token.isPlainName_of_isName (by decide)
  found := by
    have hfound : (shelfBinder.container.bind fun container =>
        container.findEntitySet? "Copies" false) = some copies := by decide +kernel
    exact Option.bind_eq_some_iff.1 hfound
  key := by
    have hkey : (shelfBinder.model.sourceEntity? (.declared copies)).map shelfBinder.model.key =
        some [number] := by decide +kernel
    exact Option.map_eq_some_iff.1 hkey

/-- A title with all that ends a value elsewhere, and numbers at the end of the range. -/
theorem bindSegments_key_values_shelf :
    BindsKey shelfBinder books title "'it''s (a), b=c/d'" (.string "it's (a), b=c/d") ∧
      (∃ word : Int64, word.toInt = 255 ∧ BindsKey shelfBinder copies number "255" (.integer word)) ∧
      ∃ fault, shelfBinder.bindSegments ["Copies(256)"] =
        .error (.token 0 "Copies" (.key fault)) := by
  have hbooks := bindSegments_key_values shelfBinder books title .string hasSingleKey_books
    (by decide) (by decide +kernel)
  have hcopies := bindSegments_key_values shelfBinder copies number .byte hasSingleKey_copies
    (by decide) (by decide +kernel)
  have hquote : String.ofList (Literal.quote "it's (a), b=c/d") = "'it''s (a), b=c/d'" := by decide
  have hlast : toString (255 : Int) = "255" := by decide
  have hnext : keyedText copies (toString (256 : Int)) = "Copies(256)" := by decide
  refine ⟨hquote ▸ hbooks.1 rfl "it's (a), b=c/d", ?_, ?_⟩
  · exact hlast ▸ (hcopies.2 0 255 rfl 255).1.2 (by decide)
  · exact hnext ▸ (hcopies.2 0 255 rfl 256).2 (by decide)

end Binder
end ResourcePaths

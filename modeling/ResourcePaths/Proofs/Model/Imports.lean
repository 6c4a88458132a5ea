import Mathlib.Data.List.Nodup
import Mathlib.Data.List.Pairwise
import ResourcePaths.Proofs.Model.Lookup
import ResourcePaths.Proofs.Model.Members

/-!
# Imports of operations

An import exposes the operations of its name and kind that are not bound, each of them once.  In a
container without clashes a name belongs to one source alone, or to imports of one operation, of
which there may be several.
-/

namespace ResourcePaths
namespace Container

/-! ### Names without clashes -/

/-- Without clashes, members of a name that has been met before import the operation of the first
one, and so do members of one name among each other. -/
theorem agree_of_clashes_eq_nil {seen members : List (String × Option String)}
    (h : clashes seen members = []) :
    (∀ member ∈ members, ∀ first, seen.lookup member.1 = some first →
      member.2.isSome = true ∧ first = member.2) ∧
    members.Pairwise fun member other =>
      member.1 = other.1 → other.2.isSome = true ∧ member.2 = other.2 := by
  induction members generalizing seen with
  | nil => exact ⟨by simp, .nil⟩
  | cons member rest ih =>
      obtain ⟨name, group⟩ := member
      rw [clashes] at h
      split at h
      · rename_i first hfirst
        split at h
        · rename_i hsame
          rw [Bool.and_eq_true, decide_eq_true_eq] at hsame
          obtain ⟨hgroup, rfl⟩ := hsame
          obtain ⟨hseen, hpairs⟩ := ih h
          refine ⟨List.forall_mem_cons.2 ⟨fun other hother => ?_, hseen⟩, .cons ?_ hpairs⟩
          · rw [hfirst] at hother
            exact ⟨hgroup, (Option.some.inj hother).symm⟩
          · rintro other hmem rfl
            exact hseen other hmem _ hfirst
        · contradiction
      · rename_i hnone
        obtain ⟨hseen, hpairs⟩ := ih h
        refine ⟨List.forall_mem_cons.2 ⟨fun other hother => ?_, fun other hmem first hfirst => ?_⟩,
          .cons ?_ hpairs⟩
        · rw [hnone] at hother
          contradiction
        · -- A name that has been met before is not that of the new member.
          have hname : other.1 ≠ name := by
            rintro rfl
            rw [hnone] at hfirst
            contradiction
          refine hseen other hmem first ?_
          rw [List.lookup_cons, beq_false_of_ne hname]
          exact hfirst
        · rintro other hmem rfl
          exact hseen other hmem group List.lookup_cons_self

/-- Members that agree with what has been met, and among each other, do not clash. -/
theorem clashes_eq_nil_of_agree {seen members : List (String × Option String)}
    (hseen : ∀ member ∈ members, ∀ first, seen.lookup member.1 = some first →
      member.2.isSome = true ∧ first = member.2)
    (hpairs : members.Pairwise fun member other =>
      member.1 = other.1 → other.2.isSome = true ∧ member.2 = other.2) :
    clashes seen members = [] := by
  induction members generalizing seen with
  | nil => rfl
  | cons member rest ih =>
      obtain ⟨name, group⟩ := member
      obtain ⟨hmember, hrest⟩ := List.forall_mem_cons.1 hseen
      obtain ⟨hfirst, hothers⟩ := List.pairwise_cons.1 hpairs
      rw [clashes]
      split
      · rename_i first hfound
        obtain ⟨hgroup, rfl⟩ := hmember first hfound
        rw [if_pos (by simp [hgroup])]
        exact ih hrest hothers
      · refine ih (fun other hother first hfound => ?_) hothers
        by_cases hname : name = other.1
        · subst hname
          rw [List.lookup_cons_self] at hfound
          obtain rfl := Option.some.inj hfound
          exact hfirst other hother rfl
        · rw [List.lookup_cons, beq_false_of_ne (Ne.symm hname)] at hfound
          exact hrest other hother first hfound

theorem clashes_eq_nil_iff {members : List (String × Option String)} :
    clashes [] members = [] ↔ members.Pairwise fun member other =>
      member.1 = other.1 → other.2.isSome = true ∧ member.2 = other.2 := by
  refine ⟨fun h => (agree_of_clashes_eq_nil h).2, clashes_eq_nil_of_agree ?_⟩
  intro member _ first hfound
  contradiction

variable {container : Container} {imp other : OperationImport}

theorem clashes_of_gatherErrors {duplicate sources imports : List ModelError}
    (h : container.gatherErrors duplicate sources imports = []) :
    clashes [] container.memberNames = [] := by
  simp only [gatherErrors, List.append_eq_nil_iff, List.map_eq_nil_iff] at h
  exact h.1.1.2

/-- No source has the name of an import. -/
theorem findSource?_of_mem_imports (h : clashes [] container.memberNames = [])
    (hmem : imp ∈ container.imports) : container.findSource? imp.name false = none := by
  have hacross := (List.pairwise_append.1 (agree_of_clashes_eq_nil h).2).2.2
  refine findSource?_eq_none_iff.2 fun source hsource hmatches => ?_
  have hname : source.name = imp.name := by
    rcases hmatches with hname | ⟨hcase, -⟩
    · exact hname
    · contradiction
  have hagree := hacross _ (List.mem_map_of_mem hsource) _ (List.mem_map_of_mem hmem) hname
  exact absurd hagree.2 (by simp)

/-- Imports of one name import one operation. -/
theorem operationName_eq_of_mem_imports (h : clashes [] container.memberNames = [])
    (hmem : imp ∈ container.imports) (hother : other ∈ container.imports)
    (hname : other.name = imp.name) : other.operationName = imp.operationName := by
  have hpairs := (List.pairwise_append.1 (agree_of_clashes_eq_nil h).2).2.1
  rw [List.pairwise_map] at hpairs
  have hagree : container.imports.Pairwise fun first second =>
      first.name = second.name → first.operationName = second.operationName :=
    hpairs.imp fun hpair hsame => Option.some.inj (hpair hsame).2
  have hsymm : Std.Symm fun first second : OperationImport =>
      first.name = second.name → first.operationName = second.operationName :=
    ⟨fun _ _ hpair hsame => (hpair hsame.symm).symm⟩
  exact hagree.forall_of_forall (fun _ _ _ => rfl) hother hmem hname

/-- Imports differ in their positions. -/
theorem nodup_imports (container : Container) : container.imports.Nodup := by
  apply List.Nodup.of_map OperationImport.position
  simp only [imports, List.map_map]
  generalize hmakers : List.map _ container.decl.actionImports ++
    List.map _ container.decl.functionImports = makers
  have hposition : ∀ numbered ∈ makers.zipIdx,
      (OperationImport.position ∘ fun numbered => numbered.1 numbered.2) numbered = numbered.2 := by
    intro numbered hnumbered
    have hmaker : numbered.1 ∈ makers := List.fst_mem_of_mem_zipIdx hnumbered
    rw [← hmakers] at hmaker
    rcases List.mem_append.1 hmaker with haction | hfunction
    · obtain ⟨decl, -, hdecl⟩ := List.mem_map.1 haction
      simp [← hdecl]
    · obtain ⟨decl, -, hdecl⟩ := List.mem_map.1 hfunction
      simp [← hdecl]
  rw [List.map_congr_left hposition, List.zipIdx_map_snd]
  exact List.nodup_range'

end Container

namespace Model

variable {model : Model} {imp : OperationImport} {operation : Operation}

theorem eq_of_operation? {element : Element} (h : element.operation? = some operation) :
    element = .operation operation := by
  cases element with
  | operation node => rw [show node = operation from Option.some.inj h]
  | structured | enum | definition | term | container => contradiction

theorem Indexed.nodup_find (h : model.Indexed) (name : String) (ignoreCase : Bool) :
    (model.find name ignoreCase).Nodup := by
  rw [h.find_eq_matching, matching]
  split
  · split
    · exact h.nodup_elements.filter _
    · exact .nil
  · exact h.nodup_elements.filter _

/-- The operations that an import exposes. -/
theorem Indexed.importedOperations_eq (h : model.Indexed) (imp : OperationImport) :
    model.importedOperations imp =
      (model.findOperations imp.operationName).filter imp.accepts := by
  have hgroup : ((model.findOperations imp.operationName).filter fun operation =>
      operation.kind = imp.kind).filter imp.accepts =
        (model.findOperations imp.operationName).filter imp.accepts := by
    rw [List.filter_filter]
    refine List.filter_congr fun operation _ => ?_
    cases hkind : decide (operation.kind = imp.kind) with
    | true => rw [Bool.and_true]
    | false => simp [OperationImport.accepts, hkind]
  -- The numbers of the operations lead back to them.
  have hback : ∀ operation ∈ (model.findOperations imp.operationName).filter imp.accepts,
      ((fun id => (model.element? id).bind Element.operation?) ∘ Operation.id) operation =
        some operation := by
    intro operation hmem
    have hfound := mem_filterMap_operation?.1 (List.mem_of_mem_filter hmem)
    rw [Function.comp_apply,
      show model.element? operation.id = some (.operation operation) from
        h.element?_of_mem_find hfound]
    rfl
  simp only [importedOperations, OperationImport.operationsIn, OperationImport.resolveOperations,
    OperationImport.follow, hgroup]
  rw [List.filterMap_map, List.filterMap_congr hback, List.filterMap_some]

theorem Indexed.nodup_importedOperations (h : model.Indexed) (imp : OperationImport) :
    (model.importedOperations imp).Nodup := by
  rw [h.importedOperations_eq, findOperations]
  refine List.Nodup.filter _ (List.Nodup.filterMap ?_ (h.nodup_find _ _))
  intro element other operation helement hother
  rw [eq_of_operation? helement, eq_of_operation? hother]

end Model
end ResourcePaths

import ResourcePaths.Proofs.Binding.Typing
import ResourcePaths.Proofs.Model.Bindings

/-!
# Unknown sources

Where no binding tells to which source a navigation property leads, a path goes on from an unknown
source: it keeps the source that it was reached from, and the property.  What such a source is good
for is its way.  In every path that binds the way starts at an entity set or a singleton that exists,
it takes one navigation property after the other, and it never leads back to a source that is known:
an unknown source has no bindings, so that all that is navigated to from it is unknown again.
-/

namespace ResourcePaths

/-! ### Ways -/

namespace NavigationSource

/-- From a source the links to what it was reached from lead back to a declared one, across these
navigation properties. -/
inductive ReachedFrom (root : DeclaredSource) : List NavigationProperty → NavigationSource → Prop
  | declared : ReachedFrom root [] (.declared root)
  | unknown {crossed : List NavigationProperty} {parent : NavigationSource}
      (hparent : ReachedFrom root crossed parent) (property : NavigationProperty) :
      ReachedFrom root (crossed ++ [property]) (.unknown parent property)

variable {root : DeclaredSource} {crossed : List NavigationProperty} {source : NavigationSource}

theorem ReachedFrom.path_eq (h : ReachedFrom root crossed source) :
    source.path = root.name :: crossed.map fun property => property.decl.name := by
  induction h with
  | declared => rfl
  | unknown _ property ih =>
      rw [path, ih, List.map_append, List.cons_append]
      rfl

/-- An unknown source has the name of the last property that was crossed. -/
theorem ReachedFrom.name_of_isUnknown (h : ReachedFrom root crossed source)
    (hunknown : source.isUnknown = true) :
    ∃ property, crossed.getLast? = some property ∧ source.name = property.decl.name := by
  cases h with
  | declared => contradiction
  | unknown _ property => exact ⟨property, List.getLast?_concat, rfl⟩

/-- No binding belongs to an unknown source. -/
theorem navigationTarget?_of_isUnknown (model : Model) (h : source.isUnknown = true)
    (property : NavigationProperty) : model.navigationTarget? source property = none := by
  cases source with
  | declared => contradiction
  | unknown => rfl

theorem navigate_of_isUnknown (model : Model) (h : source.isUnknown = true)
    (property : NavigationProperty) : model.navigate source property = .unknown source property := by
  rw [Model.navigate, navigationTarget?_of_isUnknown model h]
  rfl

end NavigationSource

/-- The property that a segment navigates along. -/
def SegmentKind.navigation? : SegmentKind → Option NavigationProperty
  | navigation node => some node
  | _ => none

theorem SegmentKind.eq_of_navigation? {kind : SegmentKind} {property : NavigationProperty}
    (h : kind.navigation? = some property) : kind = .navigation property := by
  cases kind with
  | navigation found => rw [Option.some.inj h]
  | source | property | cast | operation | imported | openProperty | key => contradiction

open NavigationSource (ReachedFrom)

namespace Binder

variable {binder : Binder} {token : Token} {source : NavigationSource}

/-! ### Sources that exist -/

/-- An entity set or a singleton of the container that paths start in, or of one of the model. -/
def Declares (binder : Binder) (root : DeclaredSource) : Prop :=
  ∃ container : Container,
    (binder.container = some container ∨ .container container ∈ binder.model.elements) ∧
      root ∈ container.entitySets ++ container.singletons

/-- The way of a source starts at one that exists. -/
def Traces (binder : Binder) (source : NavigationSource) : Prop :=
  ∃ root crossed, binder.Declares root ∧ ReachedFrom root crossed source

theorem traces_declared {root : DeclaredSource} (h : binder.Declares root) :
    binder.Traces (.declared root) :=
  ⟨root, [], h, .declared⟩

theorem container_mem_of_container? {id : ElementId} {container : Container}
    (h : binder.model.container? id = some container) :
    .container container ∈ binder.model.elements := by
  obtain ⟨element, helement, hcontainer⟩ := Option.bind_eq_some_iff.1 h
  cases element with
  | container node =>
      obtain rfl := Option.some.inj hcontainer
      exact List.mem_of_getElem? helement
  | structured | enum | definition | operation | term => contradiction

/-- The target of a binding exists. -/
theorem traces_of_navigationTarget? {property : NavigationProperty} {target : NavigationSource}
    (h : binder.model.navigationTarget? source property = some target) : binder.Traces target := by
  cases source with
  | unknown => contradiction
  | declared source =>
      obtain ⟨root, hroot, rfl⟩ := Option.map_eq_some_iff.1 h
      obtain ⟨binding, -, h⟩ := Option.bind_eq_some_iff.1 hroot
      obtain ⟨_, ⟨rfl⟩, h⟩ := Option.bind_eq_some_iff.1 h
      obtain ⟨container, hcontainer, hfound⟩ := Option.bind_eq_some_iff.1 h
      exact traces_declared ⟨container, .inr (container_mem_of_container? hcontainer),
        (Container.mem_of_findSource? hfound).1⟩

/-- The entity set of the results of an import exists. -/
theorem declares_of_importedSet? {imp : OperationImport} {set : DeclaredSource}
    (h : binder.model.importedSet? imp = some set) : binder.Declares set := by
  obtain ⟨name, -, h⟩ := Option.bind_eq_some_iff.1 h
  obtain ⟨_, ⟨rfl⟩, h⟩ := Option.bind_eq_some_iff.1 h
  obtain ⟨container, hcontainer, hfound⟩ := Option.bind_eq_some_iff.1 h
  exact ⟨container, .inr (container_mem_of_container? hcontainer),
    List.mem_append_left _ (mem_of_findNamed? hfound).1⟩

/-! ### Navigation keeps the way -/

theorem Traces.navigate (h : binder.Traces source) (property : NavigationProperty) :
    binder.Traces (binder.model.navigate source property) := by
  rw [Model.navigate]
  cases htarget : binder.model.navigationTarget? source property with
  | some target => exact traces_of_navigationTarget? htarget
  | none =>
      obtain ⟨root, crossed, hroot, hreached⟩ := h
      exact ⟨root, crossed ++ [property], hroot, hreached.unknown property⟩

theorem Traces.followNames (h : binder.Traces source) {names : List String}
    {found : NavigationSource} (hfound : binder.followNames source names = some found) :
    binder.Traces found := by
  induction names generalizing source with
  | nil =>
      obtain rfl := Option.some.inj hfound
      exact h
  | cons name rest ih =>
      obtain ⟨entity, -, hfound⟩ := Option.bind_eq_some_iff.1 hfound
      obtain ⟨member, -, hfound⟩ := Option.bind_eq_some_iff.1 hfound
      obtain ⟨property, -, hfound⟩ := Option.bind_eq_some_iff.1 hfound
      exact ih (h.navigate property) hfound

theorem Traces.resultSource? (h : binder.Traces source) {operation : Operation}
    {found : NavigationSource} (hfound : binder.resultSource? operation source = some found) :
    binder.Traces found := by
  obtain ⟨type, -, hfound⟩ := Option.bind_eq_some_iff.1 hfound
  obtain ⟨entity, -, hfound⟩ := Option.bind_eq_some_iff.1 hfound
  obtain ⟨path, -, hfound⟩ := Option.bind_eq_some_iff.1 hfound
  exact h.followNames hfound

/-! ### Segments -/

/-- Whatever a segment makes of the source in front of it, the way goes on. -/
theorem traces_of_follows {place : Place} {segment : Segment}
    (hplace : ∀ source ∈ place.source, binder.Traces source)
    (h : Follows binder token place segment) : ∀ source ∈ segment.source, binder.Traces source := by
  intro source hsource
  cases h with
  | @navigation _ property _ _ _ _ =>
      obtain ⟨parent, hparent, rfl⟩ := Option.map_eq_some_iff.1 hsource
      exact (hplace parent hparent).navigate property
  | @property _ _ type _ _ _ =>
      replace hsource : (if type.split.1.structured?.isSome then place.source else none) =
        some source := hsource
      split at hsource
      · exact hplace source hsource
      · contradiction
  | cast => exact hplace source hsource
  | call =>
      rw [source_callSegment] at hsource
      obtain ⟨parent, hparent, hresult⟩ := Option.bind_eq_some_iff.1 hsource
      exact (hplace parent hparent).resultSource? hresult
  | undeclared => contradiction

theorem traces_of_starts {segment : Segment} (h : Starts binder token segment) :
    ∀ source ∈ segment.source, binder.Traces source := by
  intro source hsource
  cases h with
  | @source container root hcontainer hfound =>
      obtain rfl := Option.some.inj hsource
      exact traces_declared ⟨container, .inl hcontainer, (Container.mem_of_findSource? hfound).1⟩
  | imported =>
      rw [source_callSegment] at hsource
      obtain ⟨set, hset, rfl⟩ := Option.map_eq_some_iff.1 hsource
      exact traces_declared (declares_of_importedSet? hset)
  | unbound =>
      rw [source_callSegment] at hsource
      contradiction

theorem traces_of_extends {start : Option Place} {segment : Segment}
    (hstart : ∀ place ∈ start, ∀ source ∈ place.source, binder.Traces source)
    (h : Extends binder token start segment) : ∀ source ∈ segment.source, binder.Traces source := by
  cases h with
  | front hstarts => exact traces_of_starts hstarts
  | behind hfollows => exact traces_of_follows (hstart _ rfl) hfollows

/-! ### Paths -/

/-- On all of a path the ways of the sources start at sources that exist, if they do so in front. -/
theorem traces_of_wellTyped {start : Option Place} {tokens : List Token} {segments : List Segment}
    (hstart : ∀ place ∈ start, ∀ source ∈ place.source, binder.Traces source)
    (h : WellTyped binder start tokens segments) :
    ∀ segment ∈ segments, ∀ source ∈ segment.source, binder.Traces source := by
  induction h with
  | nil => exact fun segment hsegment => by contradiction
  | bare hextends _ _ _ ih =>
      have hsegment := traces_of_extends hstart hextends
      refine List.forall_mem_cons.2 ⟨hsegment, ih ?_⟩
      rintro _ ⟨rfl⟩
      exact hsegment
  | @keyed _ _ segment key _ _ hextends _ _ _ hkey _ ih =>
      -- A key picks an entity of the same source.
      obtain ⟨values, rfl⟩ := hkey.picked
      have hsegment := traces_of_extends hstart hextends
      refine List.forall_mem_cons.2 ⟨hsegment, List.forall_mem_cons.2 ⟨hsegment, ih ?_⟩⟩
      rintro _ ⟨rfl⟩
      exact hsegment

/-- The first segment behind a place follows it. -/
theorem follows_head_of_wellTyped {place : Place} {tokens : List Token} {segment : Segment}
    {segments : List Segment} (h : WellTyped binder (some place) tokens (segment :: segments)) :
    ∃ token, Follows binder token place segment := by
  cases h with
  | bare hextends =>
      cases hextends with
      | behind hfollows => exact ⟨_, hfollows⟩
  | keyed hextends =>
      cases hextends with
      | behind hfollows => exact ⟨_, hfollows⟩

/-- Of two segments next to each other the second one is the key of the first, or follows the place
that the first leads to. -/
theorem next_of_wellTyped {start : Option Place} {tokens : List Token}
    {front back : List Segment} {first second : Segment}
    (h : WellTyped binder start tokens (front ++ first :: second :: back)) :
    KeyFollows first second ∨ ∃ token, Follows binder token first.place second := by
  -- The segments of a token are one or two, so that the front is cut with them.
  generalize hsegments : front ++ first :: second :: back = segments at h
  induction h generalizing front with
  | nil => simp at hsegments
  | bare _ _ _ hrest ih =>
      cases front with
      | nil =>
          obtain ⟨rfl, rfl⟩ := List.cons.inj hsegments
          exact .inr (follows_head_of_wellTyped hrest)
      | cons _ front => exact ih (List.cons.inj hsegments).2
  | keyed _ _ _ _ hkey hrest ih =>
      cases front with
      | nil =>
          obtain ⟨rfl, htail⟩ := List.cons.inj hsegments
          obtain ⟨rfl, rfl⟩ := List.cons.inj htail
          exact .inl hkey
      | cons _ front =>
          have htail := (List.cons.inj hsegments).2
          cases front with
          | nil =>
              obtain ⟨rfl, rfl⟩ := List.cons.inj htail
              exact .inr (follows_head_of_wellTyped hrest)
          | cons _ front => exact ih (List.cons.inj htail).2

/-- A navigation segment navigates from the source of the segment in front of it. -/
theorem source_of_navigation {first second : Segment} {property : NavigationProperty}
    (h : KeyFollows first second ∨ ∃ token, Follows binder token first.place second)
    (hkind : second.kind = .navigation property) :
    second.source = first.source.map fun source => binder.model.navigate source property := by
  rcases h with hkey | ⟨token, hfollows⟩
  · obtain ⟨values, rfl⟩ := hkey.picked
    contradiction
  · cases hfollows with
    | navigation =>
        obtain rfl := SegmentKind.navigation.inj hkind
        rfl
    | property | cast | undeclared => contradiction
    | call =>
        rw [kind_callSegment] at hkind
        contradiction

/-- Every unknown source of a path that binds was reached from an entity set or a singleton that
exists, across the navigation properties that its path names behind the name of that source, and it
has the name of the last of them; no binding leads on from it, whatever has been asked of the model
before; and a navigation property right behind it leads to an unknown source whose path is longer by
the name of that property. -/
theorem unknownSource_of_bind (binder : Binder) (asked : List Query) {chain : Chain}
    {path : ResourcePath} (h : binder.bind chain = .ok path) :
    let session := (Session.start binder.model).after asked
    (∀ segment ∈ path.segments, ∀ source, segment.source = some source → source.isUnknown = true →
      (∃ root crossed last, binder.Declares root ∧ ReachedFrom root crossed source ∧
        source.path = root.name :: crossed.map (fun property => property.decl.name) ∧
        crossed.getLast? = some last ∧ source.name = last.decl.name) ∧
      ∀ property, session.answer (.navigationTarget source property) = none) ∧
    (∀ front first second back, path.segments = front ++ first :: second :: back →
      ∀ source property, first.source = some source → source.isUnknown = true →
        second.kind = .navigation property →
        second.source = some (.unknown source property) ∧
          (NavigationSource.unknown source property).path = source.path ++ [property.decl.name]) := by
  intro session
  obtain ⟨-, -, -, hruns⟩ := bindChain_eq_ok_iff.1 h
  have htyped : WellTyped binder none chain.tokens path.segments := wellTyped_of_runs hruns
  constructor
  · intro segment hsegment source hsource hunknown
    have hstart : ∀ place ∈ (none : Option Place), ∀ source ∈ place.source, binder.Traces source :=
      fun place hplace => by contradiction
    obtain ⟨root, crossed, hroot, hreached⟩ :=
      traces_of_wellTyped hstart htyped segment hsegment source hsource
    obtain ⟨last, hlast, hname⟩ := hreached.name_of_isUnknown hunknown
    refine ⟨⟨root, crossed, last, hroot, hreached, hreached.path_eq, hlast, hname⟩, ?_⟩
    intro property
    rw [Model.answer_navigationTarget]
    exact NavigationSource.navigationTarget?_of_isUnknown _ hunknown property
  · intro front first second back hsegments source property hsource hunknown hkind
    rw [hsegments] at htyped
    rw [source_of_navigation (next_of_wellTyped htyped) hkind, hsource, Option.map_some,
      NavigationSource.navigate_of_isUnknown _ hunknown]
    exact ⟨rfl, rfl⟩

/-- Nodes that have a node above them, where no binding tells in which set it is. -/
def nestedNodes : Declared.Description where
  schemas := [{
    namespaceName := "N"
    entityTypes := [{
      name := "Node", key := some ["Id"]
      properties := [{ name := "Id", typeName := "Edm.Int32" }]
      navigationProperties := [{ name := "Above", typeName := "N.Node" }] }]
    containers := [{
      name := "Default", entitySets := [{ name := "Nodes", entityType := "N.Node" }] }] }]

/-- Above a node, and above the node there, the sources are unknown, the second one by one name
longer. -/
theorem unknownSource_of_bind_nodes :
    let binder : Binder := .ofModel (.ofDescription nestedNodes) {}
    ∃ path front first second source property,
      binder.bind (.plain "Nodes" [⟨none, "7"⟩] (.plain "Above" [] (.plain "Above" [] .empty))) =
        .ok path ∧
      path.segments = front ++ [first, second] ∧ first.source = some source ∧
      source.path = ["Nodes", "Above"] ∧ second.source = some (.unknown source property) ∧
      (NavigationSource.unknown source property).path = ["Nodes", "Above", "Above"] := by
  intro binder
  let chain : Chain := .plain "Nodes" [⟨none, "7"⟩] (.plain "Above" [] (.plain "Above" [] .empty))
  have hsome : (binder.bind chain).toOption.any (fun path => path.segments[2]?.any fun first =>
      path.segments[3]?.any fun second => first.source.any fun source =>
        second.kind.navigation?.any fun property =>
          path.segments = path.segments.take 2 ++ [first, second] && source.isUnknown &&
            source.path = ["Nodes", "Above"] && property.decl.name = "Above") = true := by
    decide +kernel
  simp only [Option.any_eq_true, Bool.and_eq_true, decide_eq_true_eq] at hsome
  obtain ⟨path, hpath, first, hfirst, second, hsecond, source, hsource, property, hproperty,
    ⟨⟨hcut, hunknown⟩, hway⟩, hname⟩ := hsome
  have hbind := Outcome.eq_ok_of_toOption hpath
  have hkind := SegmentKind.eq_of_navigation? hproperty
  obtain ⟨hnext, hlonger⟩ :=
    (unknownSource_of_bind binder [] hbind).2 _ first second [] hcut source property hsource
      hunknown hkind
  refine ⟨path, _, first, second, source, property, hbind, hcut, hsource, hway, hnext, ?_⟩
  rw [hlonger, hway, hname]
  rfl

end Binder
end ResourcePaths

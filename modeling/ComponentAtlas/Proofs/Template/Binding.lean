import ComponentAtlas.Proofs.Selector.Matching
import ComponentAtlas.Proofs.Text.Cutting
import ComponentAtlas.Template.Binding
import ComponentAtlas.Workspace.Symbols
import Mathlib.Data.List.Nodup

/-!
# What the nodes of a template are bound to

The binding of a template goes through a matcher with indexes, keys that are built attribute by
attribute, and a recursion that can fail at any depth. Here its result is described without them.

* `Tag.Unclosed`: a name that begins with `:` and has no second one; `tags`: the names of a forest
  that are cut into namespace and local name;
* `keyOf`: what selectors see of a node, in one piece;
* `ScopeDirective.fits`, `Scope.matching`: the directives of a scope that a key satisfies;
* `Binds`: the bound nodes of a forest;
* `Binding.nodes_ofScope`: binding fails at the first unclosed name and else gives the bound nodes.
-/

namespace ComponentAtlas

open ComponentAtlas.Script

/-! ### Names -/

namespace Markup.Tag

/-- A name that begins with `:` and has no second one. -/
def Unclosed (name : String) : Prop := ∃ rest, name.toList = ':' :: rest ∧ ':' ∉ rest

instance : DecidablePred Unclosed := fun name =>
  match h : name.toList with
  | [] => isFalse (by simp [Unclosed, h])
  | c :: rest => decidable_of_iff (c = ':' ∧ ':' ∉ rest) (by simp [Unclosed, h])

/-- The message about a name whose namespace is not closed. -/
def unclosedMessage (name : String) : String :=
  "Unsupported format \"" ++ name ++ "\" expecting \":namespace:name\""

theorem splitName_of_unclosed {name : String} (h : Unclosed name) :
    splitName name true = .error (unclosedMessage name) := by
  obtain ⟨rest, hname, hrest⟩ := h
  have hparts : parts? name = none := by
    simp [parts?, hname, Text.splitOnce_eq_none_iff.2 hrest]
  have hhead : (true && name.toList.head? == some ':') = true := by simp [hname]
  rw [splitName, hparts]
  exact if_pos hhead

theorem splitName_of_not_unclosed {name : String} (h : ¬ Unclosed name) :
    splitName name true = .ok (namespace? name, localName name) := by
  rw [splitName, namespace?, localName]
  cases hparts : parts? name with
  | some p => rfl
  | none =>
    have hhead : ¬ (true && name.toList.head? == some ':') = true := by
      intro hhead
      obtain ⟨rest, hname⟩ := List.head?_eq_some_iff.1 (by simpa using hhead)
      refine h ⟨rest, hname, Text.splitOnce_eq_none_iff.1 ?_⟩
      simpa [parts?, hname] using hparts
    exact if_neg hhead

end Markup.Tag

namespace Template

open ComponentAtlas.Source ComponentAtlas.Markup

mutual

/-- The names that are cut into namespace and local name when a node is bound, in the order of the
template. -/
def Node.tags : Node → List String
  | .element name _ children _ => name :: tags children
  | .template tag _ _ _ children _ => tag.toList ++ tags children
  | .content _ _ children _ => tags children
  | .text _ _ => []
  | .boundText _ _ => []
  | .icu _ _ => []

/-- The names that are cut when the nodes of a forest are bound. -/
def tags : List Node → List String
  | [] => []
  | n :: ns => n.tags ++ tags ns

end

/-! ### Keys -/

/-- The literal attributes that selectors can see. -/
def visible (attributes : List TextAttr) : List TextAttr := attributes.filter fun a => !a.i18n

/-- What selectors see of a node with a local name, literal attributes and names without value: the
values in lower case, and the words of a literal `class` as classes. -/
def keyOf (name : String) (attributes : List TextAttr) (bare : List String) : Selector where
  element := some name
  classes := (((visible attributes).filter fun a => a.name = "class").flatMap fun a =>
    Text.words a.value).map Text.lower
  attrs := ((visible attributes).map fun a => (a.name, Text.lower a.value)) ++ bare.map (·, "")

/-- The names of inputs and outputs. -/
def Attrs.bindings (attrs : Attrs) : List String :=
  attrs.inputs.map (·.name) ++ attrs.outputs.map (·.name)

theorem foldl_addClass (s : Selector) (ws : List String) :
    ws.foldl Selector.addClass s = { s with classes := s.classes ++ ws.map Text.lower } := by
  induction ws generalizing s with
  | nil => cases s; simp
  | cons w ws ih => simp [ih, Selector.addClass]

theorem withNames_eq (s : Selector) (names : List String) :
    withNames s names = { s with attrs := s.attrs ++ names.map (·, "") } := by
  have hempty : Text.lower "" = "" := by decide
  induction names generalizing s with
  | nil => cases s; simp [withNames]
  | cons n ns ih =>
    rw [withNames, List.foldl_cons, ← withNames, ih]
    simp [Selector.addAttribute, hempty]

theorem withAttributes_eq (s : Selector) (attributes : List TextAttr) :
    withAttributes s attributes =
      { s with
        classes := s.classes ++ (keyOf "" attributes []).classes
        attrs := s.attrs ++ (keyOf "" attributes []).attrs } := by
  induction attributes generalizing s with
  | nil => cases s; simp [withAttributes, keyOf, visible]
  | cons a as ih =>
    rw [withAttributes, List.foldl_cons, ← withAttributes, ih]
    by_cases hi : a.i18n
    · simp [keyOf, visible, hi]
    · by_cases hc : a.name = "class"
      · simp [keyOf, visible, hi, hc, foldl_addClass, Selector.addAttribute]
      · simp [keyOf, visible, hi, hc, Selector.addAttribute]

theorem withNames_withAttributes (name : String) (attributes : List TextAttr) (bare : List String) :
    withNames (withAttributes (Selector.setElement {} name) attributes) bare =
      keyOf name attributes bare := by
  rw [withNames_eq, withAttributes_eq]
  simp [keyOf, Selector.setElement]

theorem elementKey_eq (name : String) (attrs : Attrs) :
    elementKey name attrs = keyOf name attrs.attributes attrs.bindings :=
  withNames_withAttributes _ _ _

theorem templateKey_eq (attrs : Attrs) (hoisted : List HoistedAttr) :
    templateKey attrs hoisted =
      keyOf templateTag attrs.attributes (hoisted.filterMap HoistedAttr.keyName? ++ attrs.bindings) := by
  rw [templateKey, List.append_assoc, ← Attrs.bindings]
  exact withNames_withAttributes _ _ _

end Template

/-! ### Matching directives -/

/-- Whether the selector of a directive can be read and has an alternative that a node satisfies. -/
def ScopeDirective.fits (d : ScopeDirective) (key : Selector) : Bool :=
  match d.selector.map Selector.ofText with
  | some (.ok alternatives) => alternatives.any key.satisfies
  | _ => false

/-- The directives of a scope that a node satisfies, in the order of the scope. -/
def Scope.matching (s : Scope) (key : Selector) : List ScopeDirective :=
  s.directives.filter (·.fits key)

/-- Every directive of a scope is listed once and is an annotated class. -/
structure Scope.Listed (s : Scope) (w : Workspace) : Prop where
  once : (s.directives.map (·.reference.id)).Nodup
  annotated : ∀ d ∈ s.directives, (w.recorded? d.reference.id).isSome

/-- What a directive of a scope registers with a matcher. -/
def ScopeDirective.registration? (d : ScopeDirective) : Option (Registration (DeclarationId × Bool)) :=
  match d.selector.map Selector.ofText with
  | some (.ok alternatives) => some (.list alternatives (d.reference.id, d.isComponent))
  | _ => none

namespace Template.Binding

theorem add_matcher (b : Binding) (d : ScopeDirective) :
    (b.add d).matcher = d.registration?.toList.foldl Matcher.register b.matcher := by
  cases hd : d.selector with
  | none => simp [add, ScopeDirective.registration?, hd]
  | some text =>
    cases ht : Selector.ofText text with
    | ok alternatives => simp [add, ScopeDirective.registration?, hd, ht, Matcher.register]
    | error e => simp [add, ScopeDirective.registration?, hd, ht]

theorem foldl_add_matcher (b : Binding) (ds : List ScopeDirective) :
    (ds.foldl add b).matcher =
      (ds.filterMap ScopeDirective.registration?).foldl Matcher.register b.matcher := by
  induction ds generalizing b with
  | nil => rfl
  | cons d ds ih =>
    rw [List.foldl_cons, ih, add_matcher]
    cases hd : d.registration? with
    | none => simp [hd]
    | some r => simp [hd]

theorem ofScope_matcher (s : Scope) :
    (ofScope s).matcher = Matcher.ofCalls (s.directives.filterMap ScopeDirective.registration?) :=
  foldl_add_matcher {} s.directives

theorem valuesFor_eq {α : Type} (m : Matcher α) (key : Selector) :
    m.valuesFor key = (m.found key).map (·.2) := by
  rw [Matcher.valuesFor, Matcher.report, List.foldl_append_eq_append, List.nil_append,
    ← List.flatMap_def, List.map_eq_flatMap]

/-- A directive is reported exactly if it fits. -/
theorem registration?_reported (d : ScopeDirective) (key : Selector) :
    (d.registration?.bind fun c => (c.selectors.find? key.satisfies).map fun p => (p, c.value)).map (·.2) =
      if d.fits key then some (d.reference.id, d.isComponent) else none := by
  rw [ScopeDirective.registration?, ScopeDirective.fits]
  rcases d.selector.map Selector.ofText with _ | (e | alternatives)
  · rfl
  · rfl
  · cases hf : alternatives.find? key.satisfies with
    | none =>
      have hany : alternatives.any key.satisfies = false := by simpa using hf
      simp [hf, hany, Registration.selectors]
    | some p =>
      have hany : alternatives.any key.satisfies = true :=
        List.any_eq_true.2 ⟨p, List.mem_of_find?_eq_some hf, List.find?_some hf⟩
      simp [hf, hany, Registration.selectors, Registration.value]

theorem valuesFor_ofScope (s : Scope) (key : Selector) :
    (ofScope s).matcher.valuesFor key =
      (s.matching key).map fun d => (d.reference.id, d.isComponent) := by
  rw [valuesFor_eq, ofScope_matcher, Matcher.found_ofCalls, Matcher.firstMatches, Scope.matching,
    List.filterMap_filterMap, List.map_filterMap]
  simp only [registration?_reported]
  induction s.directives with
  | nil => rfl
  | cons d ds ih => by_cases hd : d.fits key <;> simp [hd, ih]

end Template.Binding

/-! ### Bound nodes -/

namespace Template

open ComponentAtlas.Source ComponentAtlas.Markup

variable {s : Scope} {w : Workspace} {key : Selector} {head : BoundHead}

/-- What a node is bound to whose key is given: the first component and all other directives of the
scope that the key satisfies, none of them twice. -/
structure BoundHead.Exact (head : BoundHead) (w : Workspace) (s : Scope) (key : Selector) : Prop where
  component : head.component.map some =
    ((s.matching key).find? (·.isComponent)).map fun d => w.recorded? d.reference.id
  directives : head.directives.map some =
    ((s.matching key).filter fun d => !d.isComponent).map fun d => w.recorded? d.reference.id
  nodup : head.directives.Nodup
  apart : ∀ c ∈ head.component, c ∉ head.directives

/-- The bound nodes of a forest: one for each element, template and slot, in the same order and
nesting. -/
inductive Binds (w : Workspace) (s : Scope) : List Node → List BoundNode → Prop
  | nil : Binds w s [] []
  | element {tag attrs children extent rest head inner out} (name : head.name = Tag.localName tag)
      (span : head.span = extent.span)
      (exact : head.Exact w s (keyOf (Tag.localName tag) attrs.attributes attrs.bindings))
      (children_binds : Binds w s children inner) (rest_binds : Binds w s rest out) :
      Binds w s (.element tag attrs children extent :: rest) (.mk head inner :: out)
  | template {tag attrs hoisted locals children extent rest head inner out}
      (name : head.name = (tag.map Tag.localName).getD templateTag) (span : head.span = extent.span)
      (exact : head.Exact w s (keyOf templateTag attrs.attributes
        (hoisted.filterMap HoistedAttr.keyName? ++ attrs.bindings)))
      (children_binds : Binds w s children inner) (rest_binds : Binds w s rest out) :
      Binds w s (.template tag attrs hoisted locals children extent :: rest) (.mk head inner :: out)
  | content {selector attributes children span rest head inner out} (span_eq : head.span = span)
      (component : head.component = none) (directives : head.directives = [])
      (children_binds : Binds w s children inner) (rest_binds : Binds w s rest out) :
      Binds w s (.content selector attributes children span :: rest) (.mk head inner :: out)
  | text {value span rest out} (rest_binds : Binds w s rest out) :
      Binds w s (.text value span :: rest) out
  | boundText {value span rest out} (rest_binds : Binds w s rest out) :
      Binds w s (.boundText value span :: rest) out
  | icu {e span rest out} (rest_binds : Binds w s rest out) : Binds w s (.icu e span :: rest) out

/-! ### Heads -/

/-- The symbol of an annotated class. -/
def symbolFor (w : Workspace) (d : ScopeDirective) : Symbol := (w.recorded? d.reference.id).getD default

theorem recorded?_eq (h : s.Listed w) {d : ScopeDirective} (hd : d ∈ s.directives) :
    w.recorded? d.reference.id = some (symbolFor w d) := by
  obtain ⟨x, hx⟩ := Option.isSome_iff_exists.1 (h.annotated d hd)
  rw [symbolFor, hx, Option.getD_some]

theorem symbolFor_id (h : s.Listed w) {d : ScopeDirective} (hd : d ∈ s.directives) :
    (symbolFor w d).id = d.reference.id := by
  obtain ⟨role, -, hx⟩ := Option.map_eq_some_iff.1 (recorded?_eq h hd)
  rw [← hx]
  rfl

theorem mem_of_mem_matching {d : ScopeDirective} (hd : d ∈ s.matching key) : d ∈ s.directives :=
  (List.mem_filter.1 hd).1

/-- Two listed directives with one symbol are the same. -/
theorem symbolFor_inj (h : s.Listed w) {d e : ScopeDirective} (hd : d ∈ s.directives)
    (he : e ∈ s.directives) (heq : symbolFor w d = symbolFor w e) : d = e := by
  refine List.inj_on_of_nodup_map h.once hd he ?_
  rw [← symbolFor_id h hd, ← symbolFor_id h he, heq]

theorem filterMap_recorded? (h : s.Listed w) (key : Selector) :
    ((s.matching key).map fun d => (d.reference.id, d.isComponent)).filterMap
        (fun x => (w.recorded? x.1).map fun y => (y, x.2)) =
      (s.matching key).map fun d => (symbolFor w d, d.isComponent) := by
  rw [List.filterMap_map, ← List.filterMap_eq_map]
  refine List.filterMap_congr fun d hd => ?_
  simp [recorded?_eq h (mem_of_mem_matching hd)]

theorem apply_component (h : s.Listed w) (key : Selector) (head : BoundHead) :
    ((Binding.ofScope s).apply w.recorded? key head).component =
      ((s.matching key).find? (·.isComponent)).map (symbolFor w) := by
  simp only [Binding.apply, Binding.valuesFor_ofScope, filterMap_recorded? h, List.find?_map,
    Option.map_map]
  rfl

theorem apply_directives (h : s.Listed w) (key : Selector) (head : BoundHead) :
    ((Binding.ofScope s).apply w.recorded? key head).directives =
      ((s.matching key).filter fun d => !d.isComponent).map (symbolFor w) := by
  simp only [Binding.apply, Binding.valuesFor_ofScope, filterMap_recorded? h, List.filter_map,
    List.map_map]
  rfl

theorem apply_exact (h : s.Listed w) (key : Selector) (head : BoundHead) :
    ((Binding.ofScope s).apply w.recorded? key head).Exact w s key where
  component := by
    rw [apply_component h, Option.map_map]
    refine Option.map_congr fun d hd => ?_
    exact (recorded?_eq h (mem_of_mem_matching (List.mem_of_find?_eq_some hd))).symm
  directives := by
    rw [apply_directives h, List.map_map]
    refine List.map_congr_left fun d hd => ?_
    exact (recorded?_eq h (mem_of_mem_matching (List.mem_filter.1 hd).1)).symm
  nodup := by
    rw [apply_directives h]
    refine List.Nodup.map_on (fun d hd e he heq => ?_) ?_
    · exact symbolFor_inj h (mem_of_mem_matching (List.mem_filter.1 hd).1)
        (mem_of_mem_matching (List.mem_filter.1 he).1) heq
    · exact ((List.Nodup.of_map _ h.once).filter _).filter _
  apart := by
    rw [apply_component h, apply_directives h]
    rintro c hc hmem
    obtain ⟨d, hd, rfl⟩ := Option.map_eq_some_iff.1 hc
    obtain ⟨e, he, heq⟩ := List.mem_map.1 hmem
    obtain ⟨he, hne⟩ := List.mem_filter.1 he
    obtain rfl := symbolFor_inj h (mem_of_mem_matching he)
      (mem_of_mem_matching (List.mem_of_find?_eq_some hd)) heq
    have hcomp : e.isComponent = true := List.find?_some hd
    simp [hcomp] at hne

/-! ### Failure at the first unclosed name -/

/-- A computation that cuts the given names: it fails with the first unclosed name, and else its
result satisfies `P`. -/
def Settles {α : Type} (names : List String) (r : Except String α) (P : α → Prop) : Prop :=
  match names.find? (Tag.Unclosed ·) with
  | some name => r = .error (Tag.unclosedMessage name)
  | none => ∃ a, r = .ok a ∧ P a

variable {α β : Type} {names more : List String} {r : Except String α} {P : α → Prop} {Q : β → Prop}

theorem settles_ok {a : α} (h : P a) : Settles [] (.ok a) P := ⟨a, rfl, h⟩

theorem Settles.bind {f : α → Except String β} (h : Settles names r P)
    (hf : ∀ a, P a → Settles more (f a) Q) : Settles (names ++ more) (r >>= f) Q := by
  rw [Settles, List.find?_append]
  cases hn : names.find? (Tag.Unclosed ·) with
  | some name =>
    rw [Settles, hn] at h
    rw [h]
    rfl
  | none =>
    rw [Settles, hn] at h
    obtain ⟨a, rfl, ha⟩ := h
    exact hf a ha

theorem Settles.map {f : α → β} (h : Settles names r P) (hf : ∀ a, P a → Q (f a)) :
    Settles names (r >>= fun a => pure (f a)) Q := by
  have := h.bind fun a ha => settles_ok (hf a ha)
  rwa [List.append_nil] at this

theorem settles_splitName (tag : String) :
    Settles [tag] (Tag.splitName tag true) (· = (Tag.namespace? tag, Tag.localName tag)) := by
  by_cases h : Tag.Unclosed tag
  · rw [Settles, List.find?_cons_of_pos (by simpa using h)]
    exact Tag.splitName_of_unclosed h
  · rw [Settles, List.find?_cons_of_neg (by simpa using h)]
    exact ⟨_, Tag.splitName_of_not_unclosed h, rfl⟩

theorem elementHead_settles (h : s.Listed w) (tag : String) (attrs : Attrs) (span : Span) :
    Settles [tag] ((Binding.ofScope s).elementHead w.recorded? tag attrs span) fun head =>
      head.name = Tag.localName tag ∧ head.span = span ∧
        head.Exact w s (keyOf (Tag.localName tag) attrs.attributes attrs.bindings) := by
  refine (settles_splitName tag).map ?_
  rintro _ rfl
  refine ⟨rfl, rfl, ?_⟩
  rw [elementKey_eq]
  exact apply_exact h _ _

theorem templateHead_settles (h : s.Listed w) (tag : Option String) (attrs : Attrs)
    (hoisted : List HoistedAttr) (locals : List Binder) (span : Span) :
    Settles tag.toList ((Binding.ofScope s).templateHead w.recorded? tag attrs hoisted locals span)
      fun head => head.name = (tag.map Tag.localName).getD templateTag ∧ head.span = span ∧
        head.Exact w s (keyOf templateTag attrs.attributes
          (hoisted.filterMap HoistedAttr.keyName? ++ attrs.bindings)) := by
  have hexact : ∀ head : BoundHead, ((Binding.ofScope s).apply w.recorded?
      (templateKey attrs hoisted) head).Exact w s (keyOf templateTag attrs.attributes
        (hoisted.filterMap HoistedAttr.keyName? ++ attrs.bindings)) := fun head => by
    rw [templateKey_eq]
    exact apply_exact h _ _
  cases tag with
  | none => exact settles_ok ⟨rfl, rfl, hexact _⟩
  | some tag =>
    refine (settles_splitName tag).map ?_
    rintro _ rfl
    exact ⟨rfl, rfl, hexact _⟩

mutual

theorem node_settles (h : s.Listed w) (n : Node) :
    Settles n.tags ((Binding.ofScope s).node w.recorded? n) fun out =>
      ∀ rest more, Binds w s rest more → Binds w s (n :: rest) (out ++ more) := by
  cases n with
  | element tag attrs children extent =>
    rw [Node.tags, Binding.node]
    change Settles ([tag] ++ tags children) _ _
    refine (elementHead_settles h tag attrs extent.span).bind ?_
    rintro head ⟨hname, hspan, hexact⟩
    refine (nodes_settles h children).map fun inner hinner rest more hrest => ?_
    exact .element hname hspan hexact hinner hrest
  | template tag attrs hoisted locals children extent =>
    rw [Node.tags, Binding.node]
    refine (templateHead_settles h tag attrs hoisted locals extent.span).bind ?_
    rintro head ⟨hname, hspan, hexact⟩
    refine (nodes_settles h children).map fun inner hinner rest more hrest => ?_
    exact .template hname hspan hexact hinner hrest
  | content selector attributes children span =>
    rw [Node.tags, Binding.node]
    refine (nodes_settles h children).map fun inner hinner rest more hrest => ?_
    exact .content rfl rfl rfl hinner hrest
  | text value span =>
    rw [Node.tags, Binding.node]
    exact settles_ok fun rest more hrest => .text hrest
  | boundText value span =>
    rw [Node.tags, Binding.node]
    exact settles_ok fun rest more hrest => .boundText hrest
  | icu e span =>
    rw [Node.tags, Binding.node]
    exact settles_ok fun rest more hrest => .icu hrest

theorem nodes_settles (h : s.Listed w) (ns : List Node) :
    Settles (tags ns) ((Binding.ofScope s).nodes w.recorded? ns) (Binds w s ns) := by
  cases ns with
  | nil =>
    rw [tags, Binding.nodes]
    exact settles_ok .nil
  | cons n ns =>
    rw [tags, Binding.nodes]
    refine (node_settles h n).bind fun first hfirst => ?_
    exact (nodes_settles h ns).map fun out hout => hfirst ns out hout

end

namespace Binding

/-- Binding fails exactly if the forest has an unclosed name, and then with a message about the first
one; else it gives the bound nodes of the forest. -/
theorem nodes_ofScope (h : s.Listed w) (forest : List Node) :
    ((∃ text, (ofScope s).nodes w.recorded? forest = .error text) ↔
      ∃ name ∈ tags forest, Tag.Unclosed name) ∧
    (∀ text, (ofScope s).nodes w.recorded? forest = .error text →
      ∃ name, (tags forest).find? (Tag.Unclosed ·) = some name ∧ text = Tag.unclosedMessage name) ∧
    ((∀ name ∈ tags forest, ¬ Tag.Unclosed name) →
      ∃ out, (ofScope s).nodes w.recorded? forest = .ok out ∧ Binds w s forest out) := by
  have hsettles := nodes_settles h forest
  rw [Settles] at hsettles
  cases hfind : (tags forest).find? (Tag.Unclosed ·) with
  | some name =>
    rw [hfind] at hsettles
    have hmem : name ∈ tags forest := List.mem_of_find?_eq_some hfind
    have hname : Tag.Unclosed name := by simpa using List.find?_some hfind
    refine ⟨⟨fun _ => ⟨name, hmem, hname⟩, fun _ => ⟨_, hsettles⟩⟩, fun text htext => ?_, fun hnone => ?_⟩
    · rw [hsettles] at htext
      cases htext
      exact ⟨name, rfl, rfl⟩
    · exact absurd hname (hnone name hmem)
  | none =>
    rw [hfind] at hsettles
    obtain ⟨out, hout, hbinds⟩ := hsettles
    have hnone : ∀ name ∈ tags forest, ¬ Tag.Unclosed name := by simpa using hfind
    refine ⟨⟨?_, ?_⟩, ?_, fun _ => ⟨out, hout, hbinds⟩⟩
    · rintro ⟨text, htext⟩
      rw [hout] at htext
      cases htext
    · rintro ⟨name, hmem, hname⟩
      exact absurd hname (hnone name hmem)
    · intro text htext
      rw [hout] at htext
      cases htext

/-- A workspace that knows a component and a directive. -/
def gallery : Workspace :=
  let context : Context := { program := {} }
  let record (id : DeclarationId) (role : Role) : Record World Analysis Resolution :=
    ⟨id, "", context.componentHandler, { role }, .pending⟩
  { options := {}, host := {}
    state := { world := {}, log := default
               records := [(0, record 0 .component), (1, record 1 .directive)] } }

/-- The scope with the component and the directive of the gallery. -/
def galleryScope : Scope where
  directives := [⟨⟨0, "Picture", "/a.ts"⟩, some "app-picture, [picture]", true⟩,
    ⟨⟨1, "Tooltip", "/a.ts"⟩, some "[tooltip]:not(span)", false⟩]

/-- An element of the gallery inside an element with the given name. -/
def framed (name : String) : Node :=
  .element name {} [.element "app-picture" { attributes := [⟨"tooltip", "x", {}, none, false⟩] } []
    ⟨{}, {}, none⟩]
    ⟨{}, {}, none⟩

theorem nodes_ofScope_gallery :
    galleryScope.Listed gallery ∧
    (∃ text, (ofScope galleryScope).nodes gallery.recorded? [framed "div", framed ":svg"] = .error text) ∧
    ∃ out, (ofScope galleryScope).nodes gallery.recorded? [framed "div", framed ":svg:g"] = .ok out ∧
      Binds gallery galleryScope [framed "div", framed ":svg:g"] out := by
  have hlisted : galleryScope.Listed gallery := ⟨by decide, by decide⟩
  refine ⟨hlisted, (nodes_ofScope hlisted _).1.2 ⟨":svg", by decide, by decide⟩, ?_⟩
  exact (nodes_ofScope hlisted _).2.2 (by decide)

end Binding

end Template

end ComponentAtlas

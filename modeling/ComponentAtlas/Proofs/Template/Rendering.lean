import ComponentAtlas.Proofs.Template.Aborts

/-!
# What stands for the elements of a markup tree

A template has one node for each element of the markup, in the same order and nesting. Scripts and
style sheets are left out with all that is inside them. A `*` attribute puts a further template around
the node of its element.

* `Around`, `wrapped`: the template that a `*` attribute puts around a node;
* `Core`: the node of an element itself;
* `Renders`: the nodes for a forest, with a condition on each element and on what stands for it;
* `visitAll_renders`: the nodes of a template stand for its markup.
-/

namespace ComponentAtlas.Template

open ComponentAtlas.Text ComponentAtlas.Source

/-! ### Visits that succeed -/

theorem bind_eq_ok {α β : Type} {x : Except Failure α} {f : α → Except Failure β} {b : β} :
    x >>= f = .ok b ↔ ∃ a, x = .ok a ∧ f a = .ok b := by
  cases x with
  | error e =>
    constructor
    · intro h
      cases h
    · rintro ⟨a, h, -⟩
      cases h
  | ok a =>
    constructor
    · intro h
      exact ⟨a, rfl, h⟩
    · rintro ⟨_, ⟨⟩, h⟩
      exact h

theorem visitAll_cons_eq_ok {inert : Bool} {n : Markup.Node} {ns : List Markup.Node} {y : Yield} :
    visitAll inert (n :: ns) = .ok y ↔
      ∃ first rest, visit inert n = .ok first ∧ visitAll inert ns = .ok rest ∧ first.append rest = y := by
  rw [visitAll, bind_eq_ok]
  refine exists_congr fun first => ?_
  rw [bind_eq_ok]
  constructor
  · rintro ⟨hfirst, rest, hrest, hy⟩
    exact ⟨rest, hfirst, hrest, Except.ok.inj hy⟩
  · rintro ⟨rest, hfirst, hrest, rfl⟩
    exact ⟨hfirst, rest, hrest, rfl⟩

section Element

variable {inert : Bool} {head : Markup.Head} {children : List Markup.Node} {span : Span}
  {endSpan : Option Span} {y : Yield}

variable (inert children span endSpan) in
/-- Scripts and style sheets are no nodes of the template. -/
theorem visit_of_isAside (h : isAside head) :
    ∃ styles, visit inert (.element head children span endSpan) = .ok { styles } := by
  rw [isAside, Bool.or_eq_true] at h
  rw [visit]
  split
  · exact ⟨[], rfl⟩
  · next hscript =>
    rw [if_pos (h.resolve_left hscript)]
    exact ⟨_, rfl⟩

theorem visit_element_eq_ok (h : isAside head = false) :
    visit inert (.element head children span endSpan) = .ok y ↔
      ∃ s inner, Sorted.ofList inert (Markup.Tag.isNgTemplate head.name) head.attrs = .ok s ∧
        visitAll (inert || marksInert head) children = .ok inner ∧
        y = { nodes := [elementNode head ⟨span, head.startSpan, endSpan⟩ s inner.nodes]
              problems := s.problems ++ inner.problems
              styles := inner.styles } := by
  rw [isAside, Bool.or_eq_false_iff] at h
  rw [visit]
  simp only [h.1, h.2, Bool.false_eq_true, if_false]
  rw [bind_eq_ok]
  refine exists_congr fun s => ?_
  rw [bind_eq_ok]
  constructor
  · rintro ⟨hs, inner, hinner, hy⟩
    exact ⟨inner, hs, hinner, (Except.ok.inj hy).symm⟩
  · rintro ⟨inner, hs, hinner, rfl⟩
    exact ⟨hs, inner, hinner, rfl⟩

end Element

/-! ### Nodes of elements -/

/-- A template that a `*` attribute puts around a node. -/
structure Around where
  hoisted : List HoistedAttr
  locals : List Binder

/-- A node with the template around it, if there is one. -/
def wrapped (extent : Extent) (core : Node) : Option Around → Node
  | some w => .template none {} w.hoisted w.locals [core] extent
  | none => core

/-- The node of an element itself: an element, a template or a slot with the given nodes inside. -/
inductive Core (head : Markup.Head) (extent : Extent) (inner : List Node) : Node → Prop
  | element (attrs : Attrs) (plain : Markup.Tag.isNgContent head.name = false)
      (noTemplate : Markup.Tag.isNgTemplate head.name = false) :
      Core head extent inner (.element head.name attrs inner extent)
  | template (attrs : Attrs) (locals : List Binder) (named : Markup.Tag.isNgTemplate head.name = true) :
      Core head extent inner (.template (some head.name) attrs [] locals inner extent)
  | content (selector : String) (attributes : List TextAttr)
      (named : Markup.Tag.isNgContent head.name = true) :
      Core head extent inner (.content selector attributes inner extent.span)

/-- The node of an element itself, made of its sorted attributes. -/
def coreNode (head : Markup.Head) (extent : Extent) (s : Sorted) (inner : List Node) : Node :=
  if Markup.Tag.isNgContent head.name then
    .content (slotSelector head.attrs) (head.attrs.map .ofMarkup) inner extent.span
  else if Markup.Tag.isNgTemplate head.name then
    .template (some head.name) s.attrs [] s.locals inner extent
  else .element head.name s.attrs inner extent

/-- The template that the first `*` attribute puts around the node. -/
def Sorted.around (s : Sorted) : Option Around := s.hoist.map fun h => ⟨h.attrs, h.locals⟩

theorem elementNode_eq (head : Markup.Head) (extent : Extent) (s : Sorted) (inner : List Node) :
    elementNode head extent s inner = wrapped extent (coreNode head extent s inner) s.around := by
  rw [elementNode, Sorted.around]
  cases s.hoist <;> rfl

theorem core_coreNode (head : Markup.Head) (extent : Extent) (s : Sorted) (inner : List Node) :
    Core head extent inner (coreNode head extent s inner) := by
  unfold coreNode
  split
  · next hcontent => exact .content _ _ hcontent
  · next hcontent =>
    split
    · next htemplate => exact .template _ _ htemplate
    · next htemplate => exact .element _ (by simpa using hcontent) (by simpa using htemplate)

/-! ### Forests -/

/-- The nodes that stand for a forest. Elements satisfy a condition together with what stands for them:
whether all attributes of the element are literal, its head, the nodes of markup and of the template
inside of it, the node of the element itself, and the template around this node. -/
inductive Renders
    (R : Bool → Markup.Head → List Markup.Node → List Node → Node → Option Around → Prop) :
    Bool → List Markup.Node → List Node → Prop
  | nil {inert} : Renders R inert [] []
  | aside {inert head children span endSpan ns out} (left : isAside head = true)
      (rest : Renders R inert ns out) : Renders R inert (.element head children span endSpan :: ns) out
  | element {inert head children span endSpan inner core around ns out} (stays : isAside head = false)
      (own : Core head ⟨span, head.startSpan, endSpan⟩ inner core)
      (inside : Renders R (inert || marksInert head) children inner)
      (holds : R inert head children inner core around) (rest : Renders R inert ns out) :
      Renders R inert (.element head children span endSpan :: ns)
        (wrapped ⟨span, head.startSpan, endSpan⟩ core around :: out)
  | blank {inert value span ns out} (h : trim value.toList = []) (rest : Renders R inert ns out) :
      Renders R inert (.text value span :: ns) out
  | text {inert value span ns out} (h : trim value.toList ≠ [])
      (literal : inert = true ∨ interpolated value = false) (rest : Renders R inert ns out) :
      Renders R inert (.text value span :: ns) (.text value span :: out)
  | boundText {value span ns out} (h : trim value.toList ≠ []) (bound : interpolated value = true)
      (rest : Renders R false ns out) :
      Renders R false (.text value span :: ns) (.boundText value span :: out)
  | comment {inert value span ns out} (rest : Renders R inert ns out) :
      Renders R inert (.comment value span :: ns) out
  | icu {inert switch kind cases span ns out} (rest : Renders R inert ns out) :
      Renders R inert (.expansion (.mk switch kind cases span) :: ns)
        (.icu (.mk switch kind cases span) span :: out)

section Renders

variable {R R' : Bool → Markup.Head → List Markup.Node → List Node → Node → Option Around → Prop}
  {problems : List Problem}

/-- A condition may be replaced by one that follows from it. Inside of literal content everything is
literal. -/
theorem Renders.imp {inert : Bool} {ns : List Markup.Node} {out : List Node} (h : Renders R inert ns out)
    (himp : ∀ {below head children inner core around}, (inert = true → below = true) →
      R below head children inner core around → R' below head children inner core around) :
    Renders R' inert ns out := by
  induction h with
  | nil => exact .nil
  | aside left _ ih => exact .aside left (ih himp)
  | element stays own _ holds _ ih_inside ih_rest =>
    refine .element stays own (ih_inside fun hbelow => himp fun hinert => hbelow ?_) (himp id holds)
      (ih_rest himp)
    rw [hinert, Bool.true_or]
  | blank h _ ih => exact .blank h (ih himp)
  | text h literal _ ih => exact .text h literal (ih himp)
  | boundText h bound _ ih => exact .boundText h bound (ih himp)
  | comment _ ih => exact .comment (ih himp)
  | icu _ ih => exact .icu (ih himp)

theorem Renders.textNode {inert : Bool} {ns : List Markup.Node} {out : List Node} (value : String) (span : Span)
    (rest : Renders R inert ns out) :
    Renders R inert (.text value span :: ns) (textNode inert value span ++ out) := by
  unfold Template.textNode
  split
  · next hblank => exact .blank (List.isEmpty_iff.1 hblank) rest
  · next hblank =>
    have hne : trim value.toList ≠ [] := fun h => hblank (List.isEmpty_iff.2 h)
    split
    · next hbound =>
      rw [Bool.and_eq_true, Bool.not_eq_true'] at hbound
      obtain ⟨hbound, rfl⟩ := hbound
      exact .boundText hne hbound rest
    · next hbound =>
      refine .text hne ?_ rest
      cases inert with
      | true => exact .inl rfl
      | false => exact .inr (by simpa using hbound)

/-- The condition holds of every element that is visited, as far as its problems are among the given
ones. -/
def Suits (R : Bool → Markup.Head → List Markup.Node → List Node → Node → Option Around → Prop)
    (problems : List Problem) : Prop :=
  ∀ ⦃inert head children s inner⦄ (extent : Extent),
    Sorted.ofList inert (Markup.Tag.isNgTemplate head.name) head.attrs = .ok s → s.problems ⊆ problems →
    visitAll (inert || marksInert head) children = .ok inner →
    R inert head children inner.nodes (coreNode head extent s inner.nodes) s.around

mutual

/-- What a node contributes stands for it in front of anything else. -/
theorem visit_renders (hR : Suits R problems) : ∀ {inert : Bool} {n : Markup.Node} {y : Yield},
    visit inert n = .ok y → y.problems ⊆ problems →
    ∀ {ns out}, Renders R inert ns out → Renders R inert (n :: ns) (y.nodes ++ out)
  | inert, .element head children span endSpan, y, hy, hproblems, ns, out, rest => by
    cases haside : isAside head with
    | true =>
      obtain ⟨styles, hstyles⟩ := visit_of_isAside inert children span endSpan haside
      rw [hstyles] at hy
      cases hy
      exact .aside haside rest
    | false =>
      obtain ⟨s, inner, hs, hinner, rfl⟩ := (visit_element_eq_ok haside).1 hy
      obtain ⟨hown, hinside⟩ := List.append_subset.1 hproblems
      show Renders R inert _ (elementNode _ _ s inner.nodes :: out)
      rw [elementNode_eq]
      exact .element haside (core_coreNode _ _ _ _) (visitAll_renders hR hinner hinside)
        (hR _ hs hown hinner) rest
  | _, .text value span, y, hy, _, ns, out, rest => by
    rw [visit] at hy
    cases hy
    exact rest.textNode value span
  | _, .comment value span, y, hy, _, ns, out, rest => by
    rw [visit] at hy
    cases hy
    exact .comment rest
  | _, .expansion (.mk switch kind cases span), y, hy, _, ns, out, rest => by
    rw [visit] at hy
    cases hy
    exact .icu rest

/-- The nodes of a template stand for its markup, if the nodes of all elements satisfy the condition. -/
theorem visitAll_renders (hR : Suits R problems) : ∀ {inert : Bool} {ns : List Markup.Node} {y : Yield},
    visitAll inert ns = .ok y → y.problems ⊆ problems → Renders R inert ns y.nodes
  | _, [], y, hy, _ => by
    rw [visitAll] at hy
    cases hy
    exact .nil
  | _, n :: ns, y, hy, hproblems => by
    obtain ⟨first, rest, hfirst, hrest, rfl⟩ := visitAll_cons_eq_ok.1 hy
    obtain ⟨hleft, hright⟩ := List.append_subset.1 hproblems
    exact visit_renders hR hfirst hleft (visitAll_renders hR hrest hright)

end

end Renders

end ComponentAtlas.Template

import ComponentAtlas.Proofs.Template.Rendering

/-!
# Literal content

Inside an element marked `ngNonBindable` all attributes and texts are literal. The mode ends with the
outermost such element: what stands outside of it is read as if it were not there.

* `Literally`, `Verbatim`: nodes that keep all attributes as they are written;
* `visitAll_verbatim`: the nodes of literal content;
* `Markup.Opening`, `Opening`: a forest of markup, or of nodes, with one place left open;
* `visitAll_fill`: what is put into the open place changes nothing outside of it;
* `visitAll_refill`: anything may be put inside of a marked element;
* `visitFlagged`: the visit with one flag that is set and cleared on the way;
* `Keeps`: a computation leaves the flag as it is; `visitAllFlagged_keeps`;
* `literal_inside_only`: all of this together.
-/

namespace ComponentAtlas

open ComponentAtlas.Source

/-! ### Forests with an open place -/

/-- A forest of markup with one place left open. -/
inductive Markup.Opening
  | here (before after : List Markup.Node)
  | inside (before : List Markup.Node) (head : Markup.Head) (inner : Markup.Opening) (span : Span)
      (endSpan : Option Span) (after : List Markup.Node)

namespace Markup.Opening

/-- The forest with nodes at the open place. -/
def fill : Opening → List Markup.Node → List Markup.Node
  | .here before after, ns => before ++ ns ++ after
  | .inside before head inner span endSpan after, ns =>
    before ++ .element head (inner.fill ns) span endSpan :: after

/-- The elements around the open place, outermost first. -/
def path : Opening → List Markup.Head
  | .here _ _ => []
  | .inside _ head inner _ _ _ => head :: inner.path

end Markup.Opening

namespace Template

/-- A node that has other nodes inside, without these. -/
inductive Shell
  | element (name : String) (attrs : Attrs) (extent : Extent)
  | template (tag : Option String) (attrs : Attrs) (hoisted : List HoistedAttr) (locals : List Binder)
      (extent : Extent)
  | content (selector : String) (attributes : List TextAttr) (span : Span)

/-- The node with nodes inside. -/
def Shell.around : Shell → List Node → Node
  | .element name attrs extent, inner => .element name attrs inner extent
  | .template tag attrs hoisted locals extent, inner => .template tag attrs hoisted locals inner extent
  | .content selector attributes span, inner => .content selector attributes inner span

/-- A forest of nodes with one place left open. -/
inductive Opening
  | here (before after : List Node)
  | inside (before : List Node) (shell : Shell) (inner : Opening) (after : List Node)

/-- The forest with nodes at the open place. -/
def Opening.fill : Opening → List Node → List Node
  | .here before after, ns => before ++ ns ++ after
  | .inside before shell inner after, ns => before ++ shell.around (inner.fill ns) :: after

open ComponentAtlas.Text

/-! ### Literal content -/

/-- The node of an element keeps all its attributes as they are written, in order, and has nothing
else; no template is put around it. -/
def Literally (head : Markup.Head) (core : Node) (around : Option Around) : Prop :=
  around = none ∧
    match core with
    | .element _ attrs _ _ => attrs = { attributes := head.attrs.map .ofMarkup }
    | .template _ attrs hoisted locals _ _ =>
      attrs = { attributes := head.attrs.map .ofMarkup } ∧ hoisted = [] ∧ locals = []
    | .content _ attributes _ _ => attributes = head.attrs.map .ofMarkup
    | _ => False

/-- The nodes for literal content. -/
def Verbatim (ns : List Markup.Node) (out : List Node) : Prop :=
  Renders (fun _ head _ _ core around => Literally head core around) true ns out

theorem ofList_true (isTemplate : Bool) (as : List Markup.Attribute) :
    Sorted.ofList true isTemplate as = .ok { attrs := { attributes := as.map .ofMarkup } } := by
  have hfold : ∀ s : Sorted, as.foldlM (Sorted.add true isTemplate) s =
      .ok { s with attrs := { s.attrs with attributes := s.attrs.attributes ++ as.map .ofMarkup } } := by
    induction as with
    | nil =>
      intro s
      rw [List.map_nil, List.append_nil]
      rfl
    | cons a as ih =>
      intro s
      have hadd : Sorted.add true isTemplate s a = .ok (s.addText (.ofMarkup a)) := rfl
      have hstep : (Except.ok (s.addText (.ofMarkup a)) >>= as.foldlM (Sorted.add true isTemplate)) =
        as.foldlM (Sorted.add true isTemplate) (s.addText (.ofMarkup a)) := rfl
      rw [List.foldlM_cons, hadd, hstep, ih]
      simp [Sorted.addText]
  exact hfold {}

theorem literally_coreNode (head : Markup.Head) (extent : Extent) (inner : List Node) :
    Literally head (coreNode head extent { attrs := { attributes := head.attrs.map .ofMarkup } } inner) none := by
  refine ⟨rfl, ?_⟩
  cases hcontent : Markup.Tag.isNgContent head.name with
  | true => simp [coreNode, hcontent]
  | false => cases htemplate : Markup.Tag.isNgTemplate head.name <;> simp [coreNode, hcontent, htemplate]

/-- Literal content has nothing but literal nodes. -/
theorem visitAll_verbatim {ns : List Markup.Node} {y : Yield} (h : visitAll true ns = .ok y) :
    Verbatim ns y.nodes := by
  let R (inert : Bool) (head : Markup.Head) (_ : List Markup.Node) (_ : List Node) (core : Node)
    (around : Option Around) : Prop := inert = true → Literally head core around
  have hR : Suits R y.problems := by
    rintro inert head children s inner extent hs - - rfl
    rw [ofList_true] at hs
    cases hs
    exact literally_coreNode head extent inner.nodes
  exact (visitAll_renders hR h (List.Subset.refl _)).imp fun hbelow hliterally => hliterally (hbelow rfl)

/-! ### Nothing changes outside -/

theorem append_assoc (a b c : Yield) : (a.append b).append c = a.append (b.append c) := by
  simp [Yield.append]

theorem visitAll_append_eq_ok {inert : Bool} {as bs : List Markup.Node} {y : Yield} :
    visitAll inert (as ++ bs) = .ok y ↔
      ∃ a b, visitAll inert as = .ok a ∧ visitAll inert bs = .ok b ∧ a.append b = y := by
  induction as generalizing y with
  | nil =>
    have hnil : ∀ b : Yield, Yield.append {} b = b := fun b => by simp [Yield.append]
    constructor
    · intro h
      exact ⟨{}, y, by rw [visitAll], h, hnil y⟩
    · rintro ⟨a, b, ha, hb, rfl⟩
      rw [visitAll] at ha
      cases ha
      rwa [hnil]
  | cons n as ih =>
    rw [List.cons_append, visitAll_cons_eq_ok]
    constructor
    · rintro ⟨first, rest, hfirst, hrest, rfl⟩
      obtain ⟨a, b, ha, hb, rfl⟩ := ih.1 hrest
      exact ⟨first.append a, b, visitAll_cons_eq_ok.2 ⟨first, a, hfirst, ha, rfl⟩, hb, append_assoc _ _ _⟩
    · rintro ⟨a, b, ha, hb, rfl⟩
      obtain ⟨first, rest, hfirst, hrest, rfl⟩ := visitAll_cons_eq_ok.1 ha
      exact ⟨first, rest.append b, hfirst, ih.2 ⟨rest, b, hrest, hb, rfl⟩, (append_assoc _ _ _).symm⟩

/-- The nodes of a forest, if it has a template. -/
def nodesOf (inert : Bool) (ns : List Markup.Node) : List Node :=
  ((visitAll inert ns).toOption.map (·.nodes)).getD []

theorem nodesOf_eq {inert : Bool} {ns : List Markup.Node} {y : Yield} (h : visitAll inert ns = .ok y) :
    nodesOf inert ns = y.nodes := by
  rw [nodesOf, h]
  rfl

/-- The sorted attributes of an element, if it has them. -/
def sortedOf (inert : Bool) (head : Markup.Head) : Sorted :=
  (Sorted.ofList inert (Markup.Tag.isNgTemplate head.name) head.attrs).toOption.getD {}

theorem sortedOf_eq {inert : Bool} {head : Markup.Head} {s : Sorted}
    (h : Sorted.ofList inert (Markup.Tag.isNgTemplate head.name) head.attrs = .ok s) :
    sortedOf inert head = s := by
  rw [sortedOf, h]
  rfl

/-- The node of an element itself without the nodes inside. -/
def coreShell (head : Markup.Head) (extent : Extent) (s : Sorted) : Shell :=
  if Markup.Tag.isNgContent head.name then
    .content (slotSelector head.attrs) (head.attrs.map .ofMarkup) extent.span
  else if Markup.Tag.isNgTemplate head.name then .template (some head.name) s.attrs [] s.locals extent
  else .element head.name s.attrs extent

theorem around_coreShell (head : Markup.Head) (extent : Extent) (s : Sorted) (inner : List Node) :
    (coreShell head extent s).around inner = coreNode head extent s inner := by
  unfold coreShell coreNode
  split
  · rfl
  · split <;> rfl

/-- An open place inside of a node that may have a template around it. -/
def Opening.within (before : List Node) (extent : Extent) (shell : Shell) (around : Option Around)
    (inner : Opening) (after : List Node) : Opening :=
  match around with
  | none => .inside before shell inner after
  | some w => .inside before (.template none {} w.hoisted w.locals extent) (.inside [] shell inner []) after

theorem fill_within (before : List Node) (extent : Extent) (shell : Shell) (around : Option Around)
    (inner : Opening) (after ns : List Node) :
    (Opening.within before extent shell around inner after).fill ns =
      before ++ wrapped extent (shell.around (inner.fill ns)) around :: after := by
  cases around <;> rfl

/-- The nodes that stand for what is outside of an open place. -/
def outside (inert : Bool) : Markup.Opening → Opening
  | .here before after => .here (nodesOf inert before) (nodesOf inert after)
  | .inside before head inner span endSpan after =>
    let extent : Extent := ⟨span, head.startSpan, endSpan⟩
    let s := sortedOf inert head
    .within (nodesOf inert before) extent (coreShell head extent s) s.around
      (outside (inert || marksInert head) inner) (nodesOf inert after)

/-- A forest is read as its parts are, whatever stands next to them. -/
theorem visitAll_around {inert : Bool} {before after : List Markup.Node} {n : Markup.Node} {y : Yield}
    (h : visitAll inert (before ++ n :: after) = .ok y) :
    ∃ z, visit inert n = .ok z ∧ y.nodes = nodesOf inert before ++ z.nodes ++ nodesOf inert after := by
  obtain ⟨b, rest, hb, hrest, rfl⟩ := visitAll_append_eq_ok.1 h
  obtain ⟨z, a, hz, ha, rfl⟩ := visitAll_cons_eq_ok.1 hrest
  refine ⟨z, hz, ?_⟩
  rw [nodesOf_eq hb, nodesOf_eq ha, List.append_assoc]
  rfl

/-- What stands in an open place has no effect on the nodes outside of it. It is literal exactly if an
element around it says so. -/
theorem visitAll_fill {f : Markup.Opening} {inert : Bool} {ns : List Markup.Node} {y : Yield}
    (hpath : ∀ head ∈ f.path, isAside head = false) (hy : visitAll inert (f.fill ns) = .ok y) :
    ∃ z, visitAll (inert || f.path.any marksInert) ns = .ok z ∧ y.nodes = (outside inert f).fill z.nodes := by
  induction f generalizing inert y with
  | here before after =>
    obtain ⟨front, a, hfront, ha, rfl⟩ := visitAll_append_eq_ok.1 hy
    obtain ⟨b, z, hb, hz, rfl⟩ := visitAll_append_eq_ok.1 hfront
    refine ⟨z, by simpa [Markup.Opening.path] using hz, ?_⟩
    rw [outside, Opening.fill, nodesOf_eq hb, nodesOf_eq ha]
    rfl
  | inside before head inner span endSpan after ih =>
    obtain ⟨hhead, hinner⟩ := List.forall_mem_cons.1 hpath
    obtain ⟨first, hfirst, hnodes⟩ := visitAll_around hy
    obtain ⟨s, content, hs, hcontent, rfl⟩ := (visit_element_eq_ok hhead).1 hfirst
    obtain ⟨z, hz, hfill⟩ := ih hinner hcontent
    refine ⟨z, ?_, ?_⟩
    · rw [Markup.Opening.path, List.any_cons, ← Bool.or_assoc]
      exact hz
    · rw [hnodes, outside, fill_within, around_coreShell, sortedOf_eq hs, ← hfill, elementNode_eq]
      simp

theorem exists_visitAll_true (ns : List Markup.Node) : ∃ y, visitAll true ns = .ok y := by
  cases hy : visitAll true ns with
  | error e => exact Bool.noConfusion ((visitAll_fails_iff true ns).1 ⟨e, hy⟩).1
  | ok y => exact ⟨y, rfl⟩

/-- Anything may be put inside of a marked element. -/
theorem visitAll_refill {f : Markup.Opening} {inert : Bool} {ns : List Markup.Node} {y : Yield}
    (hmarked : (inert || f.path.any marksInert) = true) (hy : visitAll inert (f.fill ns) = .ok y)
    (ns' : List Markup.Node) : ∃ y', visitAll inert (f.fill ns') = .ok y' := by
  induction f generalizing inert y with
  | here before after =>
    obtain rfl : inert = true := by simpa [Markup.Opening.path] using hmarked
    exact exists_visitAll_true _
  | inside before head inner span endSpan after ih =>
    obtain ⟨b, rest, hb, hrest, rfl⟩ := visitAll_append_eq_ok.1 hy
    obtain ⟨first, a, hfirst, ha, rfl⟩ := visitAll_cons_eq_ok.1 hrest
    suffices hnew : ∃ first', visit inert (.element head (inner.fill ns') span endSpan) = .ok first' by
      obtain ⟨first', hfirst'⟩ := hnew
      exact ⟨_, visitAll_append_eq_ok.2 ⟨b, _, hb, visitAll_cons_eq_ok.2 ⟨first', a, hfirst', ha, rfl⟩, rfl⟩⟩
    cases haside : isAside head with
    | true =>
      obtain ⟨styles, hstyles⟩ := visit_of_isAside inert (inner.fill ns') span endSpan haside
      exact ⟨_, hstyles⟩
    | false =>
      obtain ⟨s, content, hs, hcontent, rfl⟩ := (visit_element_eq_ok haside).1 hfirst
      rw [Markup.Opening.path, List.any_cons, ← Bool.or_assoc] at hmarked
      obtain ⟨content', hcontent'⟩ := ih hmarked hcontent
      exact ⟨_, (visit_element_eq_ok haside).2 ⟨s, content', hs, hcontent', rfl⟩⟩

/-- Inside of a script or style sheet nothing has an effect on the nodes. -/
theorem visitAll_fill_aside {f : Markup.Opening} {inert : Bool} (hpath : ∃ head ∈ f.path, isAside head = true) :
    ∃ out, ∀ ns y, visitAll inert (f.fill ns) = .ok y → y.nodes = out := by
  induction f generalizing inert with
  | here before after =>
    obtain ⟨head, hhead, -⟩ := hpath
    cases hhead
  | inside before head inner span endSpan after ih =>
    cases haside : isAside head with
    | true =>
      refine ⟨nodesOf inert before ++ nodesOf inert after, fun ns y hy => ?_⟩
      obtain ⟨first, hfirst, hnodes⟩ := visitAll_around hy
      obtain ⟨styles, hstyles⟩ := visit_of_isAside inert (inner.fill ns) span endSpan haside
      rw [hstyles] at hfirst
      cases hfirst
      rw [hnodes, List.append_nil]
    | false =>
      have hinner : ∃ head ∈ inner.path, isAside head = true := by
        simpa [Markup.Opening.path, haside] using hpath
      obtain ⟨out, hout⟩ := @ih (inert || marksInert head) hinner
      refine ⟨nodesOf inert before ++ [elementNode head ⟨span, head.startSpan, endSpan⟩ (sortedOf inert head) out] ++
        nodesOf inert after, fun ns y hy => ?_⟩
      obtain ⟨first, hfirst, hnodes⟩ := visitAll_around hy
      obtain ⟨s, content, hs, hcontent, rfl⟩ := (visit_element_eq_ok haside).1 hfirst
      rw [hnodes, sortedOf_eq hs, hout _ _ hcontent]

/-! ### One flag -/

/-- A computation with one flag that may fail. -/
abbrev Flagged := StateT Bool (Except Failure)

/-- What happens inside of an element. If the element is marked and the flag is not set already, the flag
is set before and cleared after. -/
def insideOf {α : Type} (marked : Bool) (x : Flagged α) : Flagged α := do
  let entering := !(← get) && marked
  if entering then set true
  let a ← x
  if entering then set false
  return a

/-- The computation depends on the flag in the given way, and leaves it as it is. -/
def Keeps {α : Type} (x : Flagged α) (f : Bool → Except Failure α) : Prop :=
  ∀ flag, x.run flag = (f flag).map (·, flag)

section Keeps

variable {α β : Type} {x : Flagged α} {f : Bool → Except Failure α}

theorem Keeps.pure (a : α) : Keeps (Pure.pure a) fun _ => .ok a := fun _ => rfl

theorem Keeps.get : Keeps get fun flag => .ok flag := fun _ => rfl

theorem Keeps.lift (e : Except Failure α) : Keeps (liftM e) fun _ => e := fun _ => by
  cases e <;> rfl

theorem Keeps.bind {g : α → Flagged β} {h : α → Bool → Except Failure β} (hx : Keeps x f)
    (hg : ∀ a, Keeps (g a) (h a)) : Keeps (x >>= g) fun flag => f flag >>= fun a => h a flag := by
  intro flag
  show (x >>= g).run flag = (f flag >>= fun a => h a flag).map _
  rw [StateT.run_bind, hx flag]
  cases f flag with
  | error e => rfl
  | ok a => exact hg a flag

/-- The flag is set inside of the outermost marked element, and nowhere else. -/
theorem Keeps.insideOf (hx : Keeps x f) (marked : Bool) :
    Keeps (insideOf marked x) fun flag => f (flag || marked) := by
  intro flag
  show (Template.insideOf marked x).run flag = (f (flag || marked)).map _
  cases flag with
  | true =>
    -- The flag is set by an element further out, which clears it.
    have hrun : (Template.insideOf marked x).run true = x.run true >>= fun r => .ok (r.1, r.2) := rfl
    rw [hrun, hx, Bool.true_or]
    cases f true <;> rfl
  | false =>
    cases marked with
    | true =>
      have hrun : (Template.insideOf true x).run false = x.run true >>= fun r => .ok (r.1, false) := rfl
      rw [hrun, hx, Bool.false_or]
      cases f true <;> rfl
    | false =>
      have hrun : (Template.insideOf false x).run false = x.run false >>= fun r => .ok (r.1, r.2) := rfl
      rw [hrun, hx, Bool.false_or]
      cases f false <;> rfl

end Keeps

mutual

/-- The contribution of a node, by a visit that keeps the mode in a flag. -/
def visitFlagged : Markup.Node → Flagged Yield
  | .element head children span endSpan => do
    let name := Markup.Tag.localName head.name
    if name == "script" then return {}
    else if name == "style" then return { styles := [textOf children] }
    else
      let s ← Sorted.ofList (← get) (Markup.Tag.isNgTemplate head.name) head.attrs
      let inner ← insideOf (marksInert head) (visitAllFlagged children)
      return { nodes := [elementNode head ⟨span, head.startSpan, endSpan⟩ s inner.nodes]
               problems := s.problems ++ inner.problems
               styles := inner.styles }
  | .text value span => return { nodes := textNode (← get) value span }
  | .comment _ _ => return {}
  | .expansion (.mk switch kind cases span) =>
    return { nodes := [.icu (.mk switch kind cases span) span] }

/-- The contribution of several nodes, with the mode in a flag. -/
def visitAllFlagged : List Markup.Node → Flagged Yield
  | [] => return {}
  | n :: ns => do
    let y ← visitFlagged n
    let rest ← visitAllFlagged ns
    return y.append rest

end

mutual

/-- The flag is in the end what it was in the beginning, and on the way it is what the visit is told. -/
theorem visitFlagged_keeps : ∀ n, Keeps (visitFlagged n) fun flag => visit flag n
  | .element head children span endSpan => by
    rw [visitFlagged]
    simp only [visit]
    split
    · exact .pure _
    · split
      · exact .pure _
      · exact Keeps.get.bind fun flag => (Keeps.lift _).bind fun s =>
          ((visitAllFlagged_keeps children).insideOf _).bind fun inner => .pure _
  | .text value span => by
    rw [visitFlagged]
    simp only [visit]
    exact Keeps.get.bind fun flag => .pure _
  | .comment value span => by
    rw [visitFlagged]
    simp only [visit]
    exact .pure _
  | .expansion (.mk switch kind cases span) => by
    rw [visitFlagged]
    simp only [visit]
    exact .pure _

theorem visitAllFlagged_keeps : ∀ ns, Keeps (visitAllFlagged ns) fun flag => visitAll flag ns
  | [] => by
    rw [visitAllFlagged]
    simp only [visitAll]
    exact .pure _
  | n :: ns => by
    rw [visitAllFlagged]
    simp only [visitAll]
    exact (visitFlagged_keeps n).bind fun y => (visitAllFlagged_keeps ns).bind fun rest => .pure _

end

/-! ### The mode as a whole -/

/-- **Literal content is exactly what stands inside of a marked element.**

* All nodes inside of a marked element are literal.
* The nodes outside of an open place do not depend on what is put there, which is read literally exactly
  if an element around it is marked. Anything may be put inside of a marked element.
* In scripts and style sheets nothing has an effect on the nodes.
* A visit with one flag that is set and cleared comes to the same. -/
theorem literal_inside_only :
    (∀ nodes y, visitAll false nodes = .ok y →
      Renders (fun _ head children inner _ _ => marksInert head = true → Verbatim children inner) false nodes
        y.nodes) ∧
    (∀ f : Markup.Opening, (∀ head ∈ f.path, isAside head = false) →
      ∀ ns y, visitAll false (f.fill ns) = .ok y →
        (∃ z, visitAll (f.path.any marksInert) ns = .ok z ∧ y.nodes = (outside false f).fill z.nodes) ∧
        (f.path.any marksInert = true → ∀ ns', ∃ y' z', visitAll false (f.fill ns') = .ok y' ∧
          visitAll true ns' = .ok z' ∧ y'.nodes = (outside false f).fill z'.nodes)) ∧
    (∀ f : Markup.Opening, (∃ head ∈ f.path, isAside head = true) →
      ∃ out, ∀ ns y, visitAll false (f.fill ns) = .ok y → y.nodes = out) ∧
    ∀ nodes flag, (visitAllFlagged nodes).run flag = (visitAll flag nodes).map (·, flag) := by
  refine ⟨fun nodes y hy => ?_, fun f hpath ns y hy => ?_, fun f hpath => visitAll_fill_aside hpath,
    visitAllFlagged_keeps⟩
  · refine visitAll_renders ?_ hy (List.Subset.refl y.problems)
    intro inert head children s inner extent hs hproblems hinner hmarked
    rw [hmarked, Bool.or_true] at hinner
    exact visitAll_verbatim hinner
  · have hfill : ∀ {ns y}, visitAll false (f.fill ns) = .ok y →
        ∃ z, visitAll (f.path.any marksInert) ns = .ok z ∧ y.nodes = (outside false f).fill z.nodes := by
      intro ns y hy
      have hnodes := visitAll_fill hpath hy
      rwa [Bool.false_or] at hnodes
    refine ⟨hfill hy, fun hmarked ns' => ?_⟩
    obtain ⟨y', hy'⟩ := visitAll_refill (by rwa [Bool.false_or]) hy ns'
    obtain ⟨z', hz', hnodes⟩ := hfill hy'
    rw [hmarked] at hz'
    exact ⟨y', z', hy', hz', hnodes⟩

/-- Literal content in literal content, with a binding next to it. -/
def nestedLiteral : Markup.Opening :=
  let head (name : String) (attrs : List Markup.Attribute) : Markup.Head := ⟨name, attrs, {}, false⟩
  let marker : Markup.Attribute := ⟨"ngNonBindable", "", {}, none⟩
  let bound : Markup.Attribute := ⟨"[a]", "b", {}, none⟩
  .inside [] (head "div" [bound, marker])
    (.inside [] (head "p" [marker, bound]) (.here [] []) {} none [.text "\x7b\x7bx\x7d\x7d" {}]) {} none
    [.element (head "span" [bound]) [] {} none, .text "\x7b\x7bx\x7d\x7d" {}]

theorem literal_inside_only_nested :
    (∀ head ∈ nestedLiteral.path, isAside head = false) ∧ nestedLiteral.path.any marksInert = true ∧
      ∃ y, visitAll false (nestedLiteral.fill [.text "\x7b\x7bx\x7d\x7d" {}]) = .ok y ∧
        ∃ y' z', visitAll false (nestedLiteral.fill []) = .ok y' ∧ visitAll true [] = .ok z' ∧
          y'.nodes = (outside false nestedLiteral).fill z'.nodes := by
  have hpath : ∀ head ∈ nestedLiteral.path, isAside head = false := by decide +kernel
  have hmarked : nestedLiteral.path.any marksInert = true := by decide +kernel
  have hread : (visitAll false (nestedLiteral.fill [.text "\x7b\x7bx\x7d\x7d" {}])).isOk = true := by
    decide +kernel
  cases hy : visitAll false (nestedLiteral.fill [.text "\x7b\x7bx\x7d\x7d" {}]) with
  | error e =>
    rw [hy] at hread
    cases hread
  | ok y =>
    exact ⟨hpath, hmarked, y, rfl, (literal_inside_only.2.1 nestedLiteral hpath _ y hy).2 hmarked []⟩

end Template

end ComponentAtlas

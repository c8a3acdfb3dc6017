import ComponentAtlas.Proofs.Template.Cuts

/-!
# When reading a template fails

Reading a template can fail at one place: where a mark of five bytes is looked for at the start of an
attribute name. It does fail there when a character of the name spans the end of these bytes. Names
with a `*` or a localisation marker in front are not looked at, neither are the attributes of elements
that are left out or whose content is literal.

* `Spans`, `Uncuttable`: the names at which sorting fails;
* `Nested`, `Bindable`: the elements whose attributes are sorted;
* `Blocked`: a tree with such a name at such an element;
* `visitAll_fails_iff`: the trees that have no template;
* `read_fails_exactly`: the sources that have none.
-/

namespace ComponentAtlas.Template

open ComponentAtlas.Text ComponentAtlas.Source

variable {α β : Type}

/-! ### Failures -/

/-- A part of a template that cannot be read. -/
def Fails (x : Except Failure α) : Prop := ∃ f, x = .error f

@[simp] theorem not_fails_ok (a : α) : ¬ Fails (.ok a) := by
  rintro ⟨f, hf⟩
  cases hf

@[simp] theorem not_fails_pure (a : α) : ¬ Fails (pure a) := not_fails_ok a

theorem fails_bind {x : Except Failure α} {f : α → Except Failure β} {p : Prop} (h : ∀ a, Fails (f a) ↔ p) :
    Fails (x >>= f) ↔ Fails x ∨ p := by
  cases x with
  | error e => exact ⟨fun _ => .inl ⟨e, rfl⟩, fun _ => ⟨e, rfl⟩⟩
  | ok a =>
    have hstep : (Except.ok a >>= f) = f a := rfl
    rw [hstep, h a]
    simp

/-- A sequence of steps fails where one of them does. -/
theorem fails_foldlM {step : β → α → Except Failure β} {p : α → Prop} (h : ∀ b a, Fails (step b a) ↔ p a)
    (b : β) (as : List α) : Fails (as.foldlM step b) ↔ ∃ a ∈ as, p a := by
  induction as generalizing b with
  | nil => simp
  | cons a as ih =>
    rw [List.foldlM_cons, fails_bind ih, h]
    simp

/-! ### Names that cannot be cut -/

/-- A character that begins before an offset and ends behind it. -/
def Spans (cs : List Char) (n : ℕ) : Prop :=
  ∃ before c after, cs = before ++ c :: after ∧ byteLength before < n ∧ n < byteLength before + c.utf8Size

theorem spans_cons {c : Char} {cs : List Char} {n : ℕ} :
    Spans (c :: cs) n ↔ (0 < n ∧ n < c.utf8Size) ∨ (c.utf8Size < n ∧ Spans cs (n - c.utf8Size)) := by
  constructor
  · rintro ⟨before, d, after, hcs, hbegin, hend⟩
    cases before with
    | nil =>
      cases hcs
      exact .inl ⟨hbegin, by simpa using hend⟩
    | cons b before =>
      cases hcs
      rw [byteLength_cons] at hbegin hend
      exact .inr ⟨by omega, before, d, after, rfl, by omega, by omega⟩
  · rintro (⟨hpos, hlt⟩ | ⟨hlt, before, d, after, rfl, hbegin, hend⟩)
    · exact ⟨[], c, cs, rfl, hpos, by simpa using hlt⟩
    · exact ⟨c :: before, d, after, rfl, by rw [byteLength_cons]; omega, by rw [byteLength_cons]; omega⟩

/-- A text of enough bytes cannot be cut just where a character spans the offset. -/
theorem dropBytes?_eq_none_iff {n : ℕ} {cs : List Char} (h : n ≤ byteLength cs) :
    dropBytes? n cs = none ↔ Spans cs n := by
  fun_induction dropBytes? n cs with
  | case1 cs =>
    refine iff_of_false (by simp) ?_
    rintro ⟨before, c, after, -, hbegin, -⟩
    exact Nat.not_lt_zero _ hbegin
  | case2 n => simp at h
  | case3 n c cs hle ih =>
    rw [byteLength_cons] at h
    rw [ih (by omega), spans_cons]
    constructor
    · intro hspans
      obtain ⟨before, d, after, -, hbegin, -⟩ := id hspans
      exact .inr ⟨by omega, hspans⟩
    · rintro (⟨-, hlt⟩ | ⟨-, hspans⟩)
      · omega
      · exact hspans
  | case4 n c cs hle =>
    rw [spans_cons]
    exact iff_of_true rfl (.inl ⟨Nat.succ_pos n, Nat.lt_of_not_le hle⟩)

theorem plainName_fails_iff (name : String) :
    Fails (plainName name) ↔ 5 < name.utf8ByteSize ∧ Spans name.toList 5 := by
  have hsize := byteLength_toList name
  unfold plainName
  dsimp only
  rw [hsize]
  split
  · rename_i hshort
    exact iff_of_false (not_fails_ok name) fun h => by omega
  · rename_i hlong
    rw [← dropBytes?_eq_none_iff (by omega)]
    cases dropBytes? 5 name.toList with
    | none => exact iff_of_true ⟨_, rfl⟩ ⟨by omega, rfl⟩
    | some rest =>
      refine iff_of_false ?_ (by simp)
      dsimp only
      split <;> exact not_fails_ok _

example : plainName "abcdéf" = .error (.splitCharacter "abcdéf") := by cbv

/-- The names of attributes at which sorting fails: a name with no mark of its own that has a
character across the end of its first five bytes. -/
structure Uncuttable (name : String) : Prop where
  noStar : ¬ "*".toList <+: name.toList
  notMarker : name ≠ "i18n"
  noMarker : ¬ "i18n-".toList <+: name.toList
  long : 5 < name.utf8ByteSize
  spans : Spans name.toList 5

theorem add_fails_iff (inert isTemplate : Bool) (s : Sorted) (a : Markup.Attribute) :
    Fails (Sorted.add inert isTemplate s a) ↔ inert = false ∧ Uncuttable a.name := by
  have hstar := startsWith_iff a.name "*"
  have hmarker := startsWith_iff a.name "i18n-"
  rw [startsWith] at hstar
  unfold Sorted.add
  cases inert with
  | true => simp
  | false =>
    -- A `*` is looked for first, then a localisation marker, and only then a mark of five bytes.
    cases hdrop : dropStart? "*" a.name with
    | some directive =>
      rw [hdrop] at hstar
      refine iff_of_false ?_ fun h => h.2.noStar (hstar.1 rfl)
      dsimp only
      split
      · exact not_fails_ok _
      · split <;> exact not_fails_ok _
    | none =>
      have hplain : ¬ "*".toList <+: a.name.toList := by
        rw [← hstar, hdrop]
        simp
      dsimp only
      rw [if_neg (by decide)]
      split
      · rename_i hi18n
        refine iff_of_false (not_fails_ok _) fun h => ?_
        simp only [Bool.or_eq_true, beq_iff_eq, hmarker] at hi18n
        exact hi18n.elim h.2.notMarker h.2.noMarker
      · rename_i hi18n
        simp only [Bool.or_eq_true, beq_iff_eq, hmarker, not_or] at hi18n
        rw [fails_bind fun name => iff_false_intro (not_fails_pure _), or_false, plainName_fails_iff]
        constructor
        · rintro ⟨hlong, hspans⟩
          exact ⟨rfl, hplain, hi18n.1, hi18n.2, hlong, hspans⟩
        · rintro ⟨-, h⟩
          exact ⟨h.long, h.spans⟩

theorem ofList_fails_iff (inert isTemplate : Bool) (as : List Markup.Attribute) :
    Fails (Sorted.ofList inert isTemplate as) ↔ inert = false ∧ ∃ a ∈ as, Uncuttable a.name := by
  rw [Sorted.ofList, fails_foldlM (add_fails_iff inert isTemplate)]
  constructor
  · rintro ⟨a, ha, hinert, hname⟩
    exact ⟨hinert, a, ha, hname⟩
  · rintro ⟨hinert, a, ha, hname⟩
    exact ⟨a, ha, hinert, hname⟩

/-! ### Elements that are sorted -/

/-- An element of a tree with the elements that it is nested in, outermost first. Contents of
expansions are no part of the tree. -/
inductive Nested : List Markup.Node → List Markup.Head → Markup.Head → Prop
  | root {nodes head children span endSpan} (here : Markup.Node.element head children span endSpan ∈ nodes) :
      Nested nodes [] head
  | inside {nodes outer children span endSpan path head}
      (here : Markup.Node.element outer children span endSpan ∈ nodes) (inner : Nested children path head) :
      Nested nodes (outer :: path) head

/-- Whether an element is a script or a style sheet. -/
def isAside (head : Markup.Head) : Bool :=
  Markup.Tag.localName head.name == "script" || Markup.Tag.localName head.name == "style"

/-- The elements whose attributes are sorted: neither they nor the elements around them are scripts or
style sheets, and no element around them marks its content as literal. -/
def Bindable (nodes : List Markup.Node) (head : Markup.Head) : Prop :=
  ∃ path, Nested nodes path head ∧ (∀ h ∈ head :: path, isAside h = false) ∧ ∀ h ∈ path, marksInert h = false

theorem bindable_iff {nodes : List Markup.Node} {head : Markup.Head} :
    Bindable nodes head ↔ ∃ outer children span endSpan, .element outer children span endSpan ∈ nodes ∧
      isAside outer = false ∧ (head = outer ∨ marksInert outer = false ∧ Bindable children head) := by
  constructor
  · rintro ⟨path, hnested, haside, hinert⟩
    cases hnested with
    | root here => exact ⟨head, _, _, _, here, haside head (by simp), .inl rfl⟩
    | @inside _ outer children span endSpan path _ here inner =>
      simp only [List.forall_mem_cons] at haside hinert
      exact ⟨outer, children, span, endSpan, here, haside.2.1, .inr ⟨hinert.1, path, inner,
        List.forall_mem_cons.2 ⟨haside.1, haside.2.2⟩, hinert.2⟩⟩
  · rintro ⟨outer, children, span, endSpan, here, haside, rfl | ⟨hinert, path, inner, hasides, hinerts⟩⟩
    · exact ⟨[], .root here, by simpa using haside, by simp⟩
    · simp only [List.forall_mem_cons] at hasides
      refine ⟨outer :: path, .inside here inner, ?_, List.forall_mem_cons.2 ⟨hinert, hinerts⟩⟩
      simp only [List.forall_mem_cons]
      exact ⟨hasides.1, haside, hasides.2⟩

/-- A tree with an attribute that cannot be sorted. -/
def Blocked (nodes : List Markup.Node) : Prop :=
  ∃ head a, Bindable nodes head ∧ a ∈ head.attrs ∧ Uncuttable a.name

theorem blocked_iff (nodes : List Markup.Node) :
    Blocked nodes ↔ ∃ outer children span endSpan, .element outer children span endSpan ∈ nodes ∧
      isAside outer = false ∧
        ((∃ a ∈ outer.attrs, Uncuttable a.name) ∨ marksInert outer = false ∧ Blocked children) := by
  constructor
  · rintro ⟨head, a, hbindable, ha, hname⟩
    obtain ⟨outer, children, span, endSpan, here, haside, rfl | ⟨hinert, hinner⟩⟩ := bindable_iff.1 hbindable
    · exact ⟨head, children, span, endSpan, here, haside, .inl ⟨a, ha, hname⟩⟩
    · exact ⟨outer, children, span, endSpan, here, haside, .inr ⟨hinert, head, a, hinner, ha, hname⟩⟩
  · rintro ⟨outer, children, span, endSpan, here, haside, ⟨a, ha, hname⟩ |
      ⟨hinert, head, a, hinner, ha, hname⟩⟩
    · exact ⟨outer, a, bindable_iff.2 ⟨outer, children, span, endSpan, here, haside, .inl rfl⟩, ha, hname⟩
    · exact ⟨head, a, bindable_iff.2 ⟨outer, children, span, endSpan, here, haside, .inr ⟨hinert, hinner⟩⟩,
        ha, hname⟩

theorem not_blocked_nil : ¬ Blocked [] := by
  rw [blocked_iff]
  rintro ⟨_, _, _, _, here, -⟩
  cases here

theorem blocked_cons {n : Markup.Node} {ns : List Markup.Node} :
    Blocked (n :: ns) ↔ Blocked [n] ∨ Blocked ns := by
  rw [blocked_iff (n :: ns), blocked_iff [n], blocked_iff ns]
  simp only [List.mem_cons, List.not_mem_nil, or_false, or_and_right, exists_or]

theorem blocked_element {head : Markup.Head} {children : List Markup.Node} {span : Span}
    {endSpan : Option Span} :
    Blocked [.element head children span endSpan] ↔ isAside head = false ∧
      ((∃ a ∈ head.attrs, Uncuttable a.name) ∨ marksInert head = false ∧ Blocked children) := by
  rw [blocked_iff]
  constructor
  · rintro ⟨outer, inner, _, _, here, h⟩
    cases List.mem_singleton.1 here
    exact h
  · intro h
    exact ⟨head, children, span, endSpan, List.mem_singleton.2 rfl, h⟩

/-- Nodes that are no elements have no attributes. -/
theorem not_blocked_of_ne {n : Markup.Node}
    (h : ∀ head children span endSpan, n ≠ .element head children span endSpan) : ¬ Blocked [n] := by
  rw [blocked_iff]
  rintro ⟨outer, inner, span, endSpan, here, -⟩
  exact h outer inner span endSpan (List.mem_singleton.1 here).symm

/-! ### Trees -/

theorem element_fails_iff {inert : Bool} {head : Markup.Head} {children : List Markup.Node} {span : Span}
    {endSpan : Option Span}
    (h : ∀ inert, Fails (visitAll inert children) ↔ inert = false ∧ Blocked children) :
    Fails (visit inert (.element head children span endSpan)) ↔
      inert = false ∧ Blocked [.element head children span endSpan] := by
  rw [visit, blocked_element, isAside]
  split
  · rename_i hscript
    refine iff_of_false (not_fails_ok _) ?_
    simp [hscript]
  · rename_i hscript
    split
    · rename_i hstyle
      refine iff_of_false (not_fails_ok _) ?_
      simp [hstyle]
    · rename_i hstyle
      -- The attributes of the element are sorted before its own mark counts, its content after.
      rw [fails_bind (p := (inert || marksInert head) = false ∧ Blocked children), ofList_fails_iff]
      · simp only [hscript, hstyle, Bool.or_eq_false_iff, Bool.or_self, true_and, and_assoc, and_or_left]
      · intro s
        rw [fails_bind fun y => iff_false_intro (not_fails_pure _), or_false, h]

mutual

theorem visit_fails_iff (inert : Bool) : ∀ n, Fails (visit inert n) ↔ inert = false ∧ Blocked [n]
  | .element head children span endSpan => element_fails_iff fun inert => visitAll_fails_iff inert children
  | .text value span => by
    rw [visit]
    exact iff_of_false (not_fails_ok _) fun h => not_blocked_of_ne (by simp) h.2
  | .comment value span => by
    rw [visit]
    exact iff_of_false (not_fails_ok _) fun h => not_blocked_of_ne (by simp) h.2
  | .expansion (.mk switch kind cases span) => by
    rw [visit]
    exact iff_of_false (not_fails_ok _) fun h => not_blocked_of_ne (by simp) h.2

theorem visitAll_fails_iff (inert : Bool) : ∀ ns, Fails (visitAll inert ns) ↔ inert = false ∧ Blocked ns
  | [] => by
    rw [visitAll]
    exact iff_of_false (not_fails_ok _) fun h => not_blocked_nil h.2
  | n :: ns => by
    rw [visitAll, blocked_cons, fails_bind (p := inert = false ∧ Blocked ns), visit_fails_iff inert n,
      and_or_left]
    intro y
    rw [fails_bind fun rest => iff_false_intro (not_fails_pure _), or_false, visitAll_fails_iff inert ns]

end

/-- The first part says that the markup of every source is read in a number of steps that its size
bounds, with no cut outside the source or inside a character. The second says that among the cuts by
which attributes are sorted only the one behind the first five bytes of a name can fail. The third
tells the templates at which it does. -/
theorem read_fails_exactly (source : String) :
    Markup.Bytewise.document? source = some (Markup.Document.read source) ∧
    Bytewise.read? source = (read source).toOption ∧
    ((∃ f, read source = .error f) ↔
      ∃ head a, Bindable (Markup.Document.read source).nodes head ∧ a ∈ head.attrs ∧ Uncuttable a.name) := by
  refine ⟨Markup.Bytewise.document?_eq source, Bytewise.read?_eq source, ?_⟩
  have hread : Fails (read source) ↔ Fails (visitAll false (Markup.Document.read source).nodes) := by
    rw [read, fails_bind fun y => iff_false_intro (not_fails_pure _), or_false]
  calc (∃ f, read source = .error f)
      ↔ Fails (visitAll false (Markup.Document.read source).nodes) := hread
    _ ↔ false = false ∧ Blocked (Markup.Document.read source).nodes := visitAll_fails_iff false _
    _ ↔ Blocked (Markup.Document.read source).nodes := and_iff_right rfl

end ComponentAtlas.Template

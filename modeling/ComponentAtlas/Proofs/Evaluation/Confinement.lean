import ComponentAtlas.Proofs.Evaluation.Quietness
import ComponentAtlas.Proofs.Table.Keys

/-!
# Evaluation within some files

Evaluation goes from file to file over names, static members, functions and values of functions. Here
two programs are compared that say the same about some files and references, from which names lead
only to such files and references again. Evaluation that starts there stays there, and it does the
same in both programs.

* `Value.Confined`: all references and all files of dynamic parts of a value are among the given ones;
* `Enclave`: two programs that agree on files and references which names do not leave;
* `Same`: two computations that do the same, with results that satisfy a condition;
* `visitExpr_same`, `visit_same`: one step of the evaluation, and evaluation up to any depth.
-/

namespace ComponentAtlas

open ComponentAtlas.Script

/-! ### Values -/

/-- All references of a value, and the files of its dynamic parts, are among the given ones. -/
inductive Value.Confined (F : String → Prop) (V : Reference → Prop) : Value → Prop
  | string (s : String) : Confined F V (.string s)
  | number (x : Float) : Confined F V (.number x)
  | boolean (b : Bool) : Confined F V (.boolean b)
  | null : Confined F V .null
  | undefined : Confined F V .undefined
  | array {items : List Value} (h : ∀ v ∈ items, Confined F V v) : Confined F V (.array items)
  | map {entries : List (String × Value)} (h : ∀ e ∈ entries, Confined F V e.2) :
    Confined F V (.map entries)
  | reference {r : Reference} (h : V r) : Confined F V (.reference r)
  | dynamic {d : Dynamic} (h : F d.file) : Confined F V (.dynamic d)

section Tables

variable {P : Value → Prop} {entries more : Table String Value}

theorem Table.forall_extend (h : ∀ e ∈ entries, P e.2) (hmore : ∀ e ∈ more, P e.2) :
    ∀ e ∈ Table.extend entries more, P e.2 := by
  induction more generalizing entries with
  | nil => exact h
  | cons e more ih =>
    obtain ⟨hfirst, hrest⟩ := List.forall_mem_cons.1 hmore
    exact ih (Table.forall_put h e.1 hfirst) hrest

end Tables

namespace Evaluation

open Value

/-- All values that are bound at a place, and its file, are among the given ones. -/
structure Place.Confined (F : String → Prop) (V : Reference → Prop) (place : Place) : Prop where
  file : F place.file
  scope : ∀ e ∈ place.scope, e.2.Confined F V

/-- The values of parameters are arguments or undefined. -/
theorem confined_bindParameters {F : String → Prop} {V : Reference → Prop} {scope : Table String Value}
    (params : List String) {values : List Value} (hvalues : ∀ v ∈ values, v.Confined F V)
    (hscope : ∀ e ∈ scope, e.2.Confined F V) :
    ∀ e ∈ bindParameters params values scope, e.2.Confined F V := by
  induction params generalizing values scope with
  | nil => exact hscope
  | cons param params ih =>
    cases values with
    | nil => exact ih hvalues (Table.forall_put hscope param .undefined)
    | cons v values =>
      obtain ⟨hv, hrest⟩ := List.forall_mem_cons.1 hvalues
      exact ih hrest (Table.forall_put hscope param hv)

/-! ### Computations that do the same -/

/-- Two computations do the same, and their results satisfy a condition. -/
def Same {α : Type} (Q : α → Prop) (x y : Eval α) : Prop := x = y ∧ ∀ a, Q (x a).1

section Same

variable {α β : Type} {Q : α → Prop} {Q' : β → Prop} {x y : Eval α} {f g : α → Eval β}

theorem same_pure {v : α} (h : Q v) : Same Q (pure v) (pure v) := ⟨rfl, fun _ => h⟩

theorem Same.bind (hx : Same Q x y) (hf : ∀ v, Q v → Same Q' (f v) (g v)) :
    Same Q' (x >>= f) (y >>= g) := by
  obtain ⟨rfl, hQ⟩ := hx
  refine ⟨funext fun a => ?_, fun a => (hf _ (hQ a)).2 (x a).2⟩
  show f (x a).1 (x a).2 = g (x a).1 (x a).2
  rw [(hf _ (hQ a)).1]

theorem same_modify (change : Activity → Activity) :
    Same (fun _ => True) (modify change : Eval PUnit) (modify change) := ⟨rfl, fun _ => trivial⟩

theorem same_get : Same (fun _ => True) (get : Eval Activity) get := ⟨rfl, fun _ => trivial⟩

/-- A computation between two changes of the activity. -/
theorem Same.between (hx : Same Q x y) (before after : Activity → Activity) :
    Same Q
      (do
        modify before
        let v ← x
        modify after
        return v)
      (do
        modify before
        let v ← y
        modify after
        return v) :=
  (same_modify before).bind fun _ _ => hx.bind fun _ hv => (same_modify after).bind fun _ _ => same_pure hv

end Same

/-! ### Files and references that names do not leave -/

section Enclave

variable {p q : Program} {F : String → Prop} {V : Reference → Prop}

/-- Both programs say the same about what a name refers to, and it is among the given files and
references. -/
def Inside (p q : Program) (F : String → Prop) (V : Reference → Prop) : Target → Prop
  | .declaration id => q.declaration? id = p.declaration? id ∧
    ∀ d, p.declaration? id = some d → F d.file ∧ (initializer? d.kind = none → V (.ofDeclaration d))
  | .whole file => F file
  | .external _ _ => True

/-- Two programs agree on files and references, which names do not leave. -/
structure Enclave (p q : Program) (F : String → Prop) (V : Reference → Prop) : Prop where
  identifier?_eq : ∀ {name file}, F file → q.identifier? name file = p.identifier? name file
  export?_eq : ∀ {file name}, F file → q.export? file name = p.export? file name
  identifier?_inside : ∀ {name file target}, F file → p.identifier? name file = some target →
    Inside p q F V target
  export?_inside : ∀ {file name target}, F file → p.export? file name = some target →
    Inside p q F V target
  declaration?_eq : ∀ {r}, V r → q.declaration? r.id = p.declaration? r.id
  file_of_reference : ∀ {r d}, V r → p.declaration? r.id = some d → F d.file

variable (E : Enclave p q F V) {visit visit' : Visit} {place : Place} {node : Expr}
  (hvisit : ∀ e place, place.Confined F V → Same (Confined F V) (visit e place) (visit' e place))

theorem same_stopped (hfile : F place.file) (node : Expr) (reason : Reason) :
    Same (Confined F V) (pure (stopped node place reason)) (pure (stopped node place reason)) :=
  same_pure (.dynamic hfile)

theorem confined_file {file : String} (h : F file) : Place.Confined F V { file } :=
  ⟨h, fun _ he => nomatch he⟩

theorem confined_call {file : String} (h : F file) (params : List String) {values : List Value}
    (hvalues : ∀ v ∈ values, v.Confined F V) :
    Place.Confined F V { file, scope := bindParameters params values [] } :=
  ⟨h, confined_bindParameters params hvalues fun _ he => nomatch he⟩

/-! ### Names -/

section Names

include hvisit

theorem visitDeclaration_same (hplace : place.Confined F V) {id : DeclarationId}
    (hid : Inside p q F V (.declaration id)) :
    Same (Confined F V) (visitDeclaration p visit node id place) (visitDeclaration q visit' node id place) := by
  obtain ⟨heq, hinside⟩ := hid
  rw [visitDeclaration_eq, visitDeclaration_eq, heq]
  cases hd : p.declaration? id with
  | none => exact same_stopped hplace.file _ _
  | some d =>
    obtain ⟨hfile, hreference⟩ := hinside d hd
    refine (same_modify _).bind fun _ _ => ?_
    cases hinit : initializer? d.kind with
    | none => exact same_pure (.reference (hreference hinit))
    | some init =>
      refine same_get.bind fun a _ => ?_
      split
      · exact same_stopped hplace.file _ _
      · exact (hvisit init _ (confined_file hfile)).between _ _

theorem visitTarget_same (hplace : place.Confined F V) {target : Target}
    (htarget : Inside p q F V target) :
    Same (Confined F V) (visitTarget p visit node target place) (visitTarget q visit' node target place) := by
  cases target with
  | declaration id => exact visitDeclaration_same hvisit hplace htarget
  | whole file => exact same_stopped hplace.file _ _
  | external module name => exact same_stopped hplace.file _ _

include E

theorem visitIdent_same (hplace : place.Confined F V) (name : String) :
    Same (Confined F V) (visitIdent p visit node name place) (visitIdent q visit' node name place) := by
  unfold visitIdent
  rw [E.identifier?_eq hplace.file]
  cases hbound : Table.get? name place.scope with
  | some value => exact same_pure (hplace.scope _ (Table.mem_of_get? hbound))
  | none =>
    dsimp only
    split
    · exact same_pure .undefined
    · cases hname : p.identifier? name place.file with
      | none => exact same_stopped hplace.file _ _
      | some target => exact visitTarget_same hvisit hplace (E.identifier?_inside hplace.file hname)

end Names

/-! ### Properties -/

section Properties

include hvisit

theorem visitEnum_same (hplace : place.Confined F V) (name : String) (members : List EnumMember)
    (next : Float) :
    Same (Confined F V) (visitEnum visit name place members next)
      (visitEnum visit' name place members next) := by
  induction members generalizing next with
  | nil => exact same_pure .undefined
  | cons m members ih =>
    have hvalue : Same (Confined F V) (enumValue visit place next m) (enumValue visit' place next m) := by
      unfold enumValue
      split
      · exact hvisit _ _ hplace
      · exact same_pure (.number _)
    rw [visitEnum_cons, visitEnum_cons]
    refine hvalue.bind fun value hconfined => ?_
    split
    · exact same_pure hconfined
    · exact ih _

include E

theorem visitMember_same (hplace : place.Confined F V) {r : Reference} (hr : V r) (name : String) :
    Same (Confined F V) (visitMember p visit node r name place)
      (visitMember q visit' node r name place) := by
  unfold visitMember
  rw [E.declaration?_eq hr]
  cases hd : p.declaration? r.id with
  | none => exact same_stopped hplace.file _ _
  | some d =>
    have hfile : F d.file := E.file_of_reference hr hd
    dsimp only
    split
    · split
      · split
        · exact same_stopped hplace.file _ _
        · split
          · exact hvisit _ _ (confined_file hfile)
          · exact same_pure .undefined
      · exact same_pure .undefined
    · exact visitEnum_same hvisit (confined_file hfile) _ _ _
    · exact same_stopped hplace.file _ _

theorem property_same (hplace : place.Confined F V) {receiver : Value} (hr : receiver.Confined F V)
    (name : String) :
    Same (Confined F V) (property p visit node receiver name place)
      (property q visit' node receiver name place) := by
  cases hr with
  | string s =>
    refine same_pure ?_
    split
    · exact .number _
    · exact .undefined
  | number x => exact same_pure .undefined
  | boolean b => exact same_pure .undefined
  | null => exact same_stopped hplace.file _ _
  | undefined => exact same_stopped hplace.file _ _
  | @array items h =>
    refine same_pure ?_
    split
    · exact .number _
    · exact .undefined
  | @map entries h =>
    refine same_pure ?_
    cases hentry : Table.get? name entries with
    | none => exact .undefined
    | some v => exact h _ (Table.mem_of_get? hentry)
  | reference h => exact visitMember_same E hvisit hplace h name
  | @dynamic d h =>
    obtain ⟨inner, file, reason⟩ := d
    cases reason <;> exact same_stopped hplace.file _ _

theorem visitProperty_same (hplace : place.Confined F V) (object : Expr) (name : String) :
    Same (Confined F V) (visitProperty p visit node object name place)
      (visitProperty q visit' node object name place) := by
  have hwhole : wholeFile? q object place = wholeFile? p object place := by
    unfold wholeFile?
    simp only [E.identifier?_eq hplace.file]
  unfold visitProperty
  rw [hwhole]
  cases hfile : wholeFile? p object place with
  | none => exact (hvisit _ _ hplace).bind fun receiver hr => property_same E hvisit hplace hr name
  | some file =>
    have hF : F file := by
      unfold wholeFile? at hfile
      split at hfile
      · cases hfile
      · split at hfile
        · cases hfile
        · split at hfile
          · next htarget =>
            cases hfile
            exact E.identifier?_inside hplace.file htarget
          · cases hfile
    dsimp only
    rw [E.export?_eq hF]
    cases hname : p.export? file name with
    | none => exact same_stopped hplace.file _ _
    | some target => exact visitTarget_same hvisit hplace (E.export?_inside hF hname)

omit hvisit E in
theorem confined_item {items : List Value} (hitems : ∀ v ∈ items, v.Confined F V) (n : Nat) :
    ((items[n]?).getD .undefined).Confined F V := by
  cases hitem : items[n]? with
  | none => exact .undefined
  | some v => exact hitems v (List.mem_of_getElem? hitem)

theorem visitElement_same (hplace : place.Confined F V) (object index : Expr) :
    Same (Confined F V) (visitElement p visit node object index place)
      (visitElement q visit' node object index place) := by
  unfold visitElement
  refine (hvisit _ _ hplace).bind fun receiver hr => (hvisit _ _ hplace).bind fun i _ => ?_
  split
  · exact same_stopped hplace.file _ _
  · cases hr with
    | array hitems =>
      split
      · exact same_pure (confined_item hitems _)
      · exact same_pure .undefined
  · exact property_same E hvisit hplace hr _
  · exact property_same E hvisit hplace hr _
  · exact same_stopped hplace.file _ _
  · exact same_stopped hplace.file _ _

end Properties

/-! ### Literals and operators -/

section Literals

theorem confined_spreadItems (hplace : place.Confined F V) (e : Expr) {v : Value} (hv : v.Confined F V) :
    ∀ w ∈ spreadItems e place v, w.Confined F V := by
  have hstopped : ∀ w ∈ [stopped e place (.invalidOperand "spread")], w.Confined F V := by
    intro w hw
    rw [List.mem_singleton.1 hw]
    exact .dynamic hplace.file
  cases hv with
  | array h => exact h
  | dynamic h =>
    intro w hw
    rw [List.mem_singleton.1 hw]
    exact .dynamic h
  | _ => exact hstopped

include hvisit

theorem visitElements_same (hplace : place.Confined F V) (es : List Element) :
    Same (fun vs => ∀ v ∈ vs, v.Confined F V) (visitElements visit place es)
      (visitElements visit' place es) := by
  induction es with
  | nil => exact same_pure fun _ hv => nomatch hv
  | cons e es ih =>
    cases e with
    | hole => exact ih.bind fun vs hvs => same_pure (List.forall_mem_cons.2 ⟨.undefined, hvs⟩)
    | item e =>
      exact (hvisit _ _ hplace).bind fun v hv => ih.bind fun vs hvs =>
        same_pure (List.forall_mem_cons.2 ⟨hv, hvs⟩)
    | spread e =>
      rw [visitElements_spread, visitElements_spread]
      refine (hvisit _ _ hplace).bind fun v hv => ih.bind fun vs hvs => same_pure ?_
      exact List.forall_mem_append.2 ⟨confined_spreadItems hplace e hv, hvs⟩

theorem visitKey_same (hplace : place.Confined F V) (key : Key) :
    Same (fun k => ∀ v, k = .error v → v.Confined F V) (visitKey visit node place key)
      (visitKey visit' node place key) := by
  cases key with
  | fixed name => exact same_pure fun _ h => nomatch h
  | computed e =>
    refine (hvisit _ _ hplace).bind fun v _ => ?_
    split
    · exact same_pure fun _ h => nomatch h
    · exact same_pure fun _ h => nomatch h
    · refine same_pure ?_
      rintro _ ⟨⟩
      exact .dynamic hplace.file
    · refine same_pure ?_
      rintro _ ⟨⟩
      exact .dynamic hplace.file

theorem visitMembers_same (hplace : place.Confined F V) (ms : List Member) {entries : Table String Value}
    (hentries : ∀ e ∈ entries, e.2.Confined F V) :
    Same (Confined F V) (visitMembers visit node place ms entries)
      (visitMembers visit' node place ms entries) := by
  induction ms generalizing entries with
  | nil => exact same_pure (.map hentries)
  | cons m ms ih =>
    cases m with
    | entry key e =>
      refine (visitKey_same hvisit hplace key).bind fun k hk => ?_
      split
      · exact same_pure (hk _ rfl)
      · exact (hvisit _ _ hplace).bind fun v hv => ih (Table.forall_put hentries _ hv)
    | spread e =>
      refine (hvisit _ _ hplace).bind fun v hv => ?_
      split
      · cases hv with
        | map hinner => exact ih (Table.forall_extend hentries hinner)
      · exact same_stopped hplace.file _ _
      · exact same_stopped hplace.file _ _

theorem visitPieces_same (hplace : place.Confined F V) (quasis : List String) (es : List Expr)
    (out : String) :
    Same (Confined F V) (visitPieces visit node place quasis es out)
      (visitPieces visit' node place quasis es out) := by
  induction quasis generalizing es out with
  | nil => exact same_pure (.string _)
  | cons quasi quasis ih =>
    cases es with
    | nil => exact ih _ _
    | cons e es =>
      refine (hvisit _ _ hplace).bind fun v _ => ?_
      split
      · exact same_stopped hplace.file _ _
      · split
        · exact ih _ _
        · exact same_stopped hplace.file _ _

omit hvisit in
theorem confined_unaryValue? {operator : String} {v w : Value} (h : unaryValue? operator v = some w) :
    w.Confined F V := by
  unfold unaryValue? at h
  split at h
  · obtain ⟨b, -, rfl⟩ := Option.map_eq_some_iff.1 h
    exact .boolean _
  · obtain ⟨x, -, rfl⟩ := Option.map_eq_some_iff.1 h
    exact .number _
  · obtain ⟨x, -, rfl⟩ := Option.map_eq_some_iff.1 h
    exact .number _
  · cases h
    exact .undefined
  · cases h

omit hvisit in
theorem confined_arithmetic? {operator : String} {a b : Float} {w : Value}
    (h : arithmetic? operator a b = some w) : w.Confined F V := by
  unfold arithmetic? at h
  split at h
  case h_1 | h_2 | h_3 | h_4 | h_5 | h_6 =>
    cases h
    exact .number _
  case h_7 | h_8 | h_9 | h_10 =>
    cases h
    exact .boolean _
  case h_11 => cases h

omit hvisit in
theorem confined_binaryValue? {operator : String} {a b w : Value}
    (h : binaryValue? operator a b = some w) : w.Confined F V := by
  unfold binaryValue? at h
  split at h
  · cases h
    exact .boolean _
  · split at h
    · cases h
      exact .boolean _
    · split at h
      · exact confined_arithmetic? h
      · split at h
        · obtain ⟨t, -, rfl⟩ := Option.map_eq_some_iff.1 h
          exact .string _
        · cases h
      · split at h
        · obtain ⟨t, -, rfl⟩ := Option.map_eq_some_iff.1 h
          exact .string _
        · cases h
      · cases h

omit hvisit in
theorem confined_getD {value : Option Value} (hvalue : ∀ v, value = some v → v.Confined F V)
    (hplace : place.Confined F V) (reason : Reason) :
    (value.getD (stopped node place reason)).Confined F V := by
  cases value with
  | none => exact .dynamic hplace.file
  | some v => exact hvalue v rfl

theorem visitUnary_same (hplace : place.Confined F V) (operator : String) (argument : Expr) :
    Same (Confined F V) (visitUnary visit node operator argument place)
      (visitUnary visit' node operator argument place) := by
  refine (hvisit _ _ hplace).bind fun v _ => ?_
  split
  · exact same_stopped hplace.file _ _
  · exact same_pure (confined_getD (fun w hw => confined_unaryValue? hw) hplace _)

theorem visitBinary_same (hplace : place.Confined F V) (operator : String) (left right : Expr) :
    Same (Confined F V) (visitBinary visit node operator left right place)
      (visitBinary visit' node operator left right place) := by
  refine (hvisit _ _ hplace).bind fun a ha => ?_
  split
  · exact same_stopped hplace.file _ _
  · split
    · split
      · exact same_pure ha
      · exact hvisit _ _ hplace
    · split
      · exact same_pure ha
      · exact hvisit _ _ hplace
    · split
      · exact hvisit _ _ hplace
      · exact hvisit _ _ hplace
      · exact same_pure ha
    · refine (hvisit _ _ hplace).bind fun b _ => ?_
      split
      · exact same_stopped hplace.file _ _
      · exact same_pure (confined_getD (fun w hw => confined_binaryValue? hw) hplace _)

theorem visitConditional_same (hplace : place.Confined F V) (test yes no : Expr) :
    Same (Confined F V) (visitConditional visit node test yes no place)
      (visitConditional visit' node test yes no place) := by
  refine (hvisit _ _ hplace).bind fun v _ => ?_
  split
  · exact same_stopped hplace.file _ _
  · split <;> exact hvisit _ _ hplace

end Literals

/-! ### Calls -/

section Calls

/-- What is called belongs to one of the given files. -/
def ConfinedCallee (F : String → Prop) (V : Reference → Prop) : Callee ⊕ Value → Prop
  | .inl c => F c.file
  | .inr v => v.Confined F V

include E

theorem staticMethod?_eq {r : Reference} (hr : V r) (name : String) :
    staticMethod? q r name = staticMethod? p r name := by
  simp only [staticMethod?, E.declaration?_eq hr]

theorem file_of_staticMethod? {r : Reference} (hr : V r) {name : String} {c : Callee}
    (h : staticMethod? p r name = some c) : F c.file := by
  simp only [staticMethod?, Option.bind_eq_bind, Option.bind_eq_some_iff] at h
  obtain ⟨d, hd, body, -, m, -, hm⟩ := h
  split at hm
  · cases hm
    exact E.file_of_reference hr hd
  · cases hm

theorem function?_eq {r : Reference} (hr : V r) : function? q r = function? p r := by
  simp only [function?, E.declaration?_eq hr]

theorem file_of_function? {r : Reference} (hr : V r) {c : Callee} (h : function? p r = some c) :
    F c.file := by
  simp only [function?, Option.bind_eq_bind, Option.bind_eq_some_iff] at h
  obtain ⟨d, hd, hkind⟩ := h
  split at hkind
  · cases hkind
    exact E.file_of_reference hr hd
  · cases hkind

omit E in
theorem reference_of_confined {v : Value} (hv : v.Confined F V) {r : Reference}
    (hr : v.asReference? = some r) : V r := by
  cases hv with
  | reference h => exact Option.some.inj hr ▸ h
  | _ => cases hr

omit E in
/-- The function that a value refers to, if it refers to one. -/
theorem callee_same {v : Value} (hv : v.Confined F V) {find find' : Reference → Option Callee}
    (heq : ∀ r, V r → find' r = find r) (hfile : ∀ r c, V r → find r = some c → F c.file) :
    v.asReference?.bind find' = v.asReference?.bind find ∧
      ∀ c, v.asReference?.bind find = some c → F c.file := by
  cases hr : v.asReference? with
  | none => exact ⟨rfl, fun c hc => nomatch hc⟩
  | some r =>
    have hV : V r := reference_of_confined hv hr
    exact ⟨heq r hV, fun c hc => hfile r c hV hc⟩

include hvisit

theorem resolveCallee_same (hplace : place.Confined F V) (callee : Expr) :
    Same (ConfinedCallee F V) (resolveCallee p visit callee place) (resolveCallee q visit' callee place) := by
  unfold resolveCallee
  split
  · next object name _ =>
    refine (hvisit _ _ hplace).bind fun receiver hr => ?_
    -- The body of a function is evaluated in the file of the function, not in that of the call.
    obtain ⟨heq, hfile⟩ := callee_same hr (fun r hV => staticMethod?_eq E hV name)
      fun r c hV => file_of_staticMethod? E hV
    rw [heq]
    cases hc : receiver.asReference?.bind (staticMethod? p · name) with
    | some c => exact same_pure (hfile c hc)
    | none =>
      exact (property_same E hvisit hplace hr name).bind fun v hv =>
        same_pure (Q := ConfinedCallee F V) (v := .inr v) hv
  · refine (hvisit _ _ hplace).bind fun value hv => ?_
    obtain ⟨heq, hfile⟩ := callee_same hv (fun r hV => function?_eq E hV)
      fun r c hV => file_of_function? E hV
    rw [heq]
    cases hc : value.asReference?.bind (function? p) with
    | some c => exact same_pure (hfile c hc)
    | none => exact same_pure (Q := ConfinedCallee F V) (v := .inr value) hv

omit hvisit in
theorem forwarded?_same (hplace : place.Confined F V) (callee : Expr) (args : List Element) :
    forwarded? q callee args place = forwarded? p callee args place := by
  unfold forwarded?
  rw [E.identifier?_eq hplace.file]
  cases htarget : p.identifier? "forwardRef" place.file with
  | none => rfl
  | some target =>
    cases target with
    | declaration id =>
      have hinside := E.identifier?_inside hplace.file htarget
      simp only [hinside.1]
    | _ => rfl

omit E in
theorem callDeclared_same (hplace : place.Confined F V) {c : Callee} (hc : F c.file)
    (args : List Element) :
    Same (Confined F V) (callDeclared visit node c args place)
      (callDeclared visit' node c args place) := by
  unfold callDeclared
  split
  · exact same_stopped hplace.file _ _
  · refine same_get.bind fun a _ => ?_
    split
    · exact same_stopped hplace.file _ _
    · exact (visitElements_same hvisit hplace args).bind fun values hvalues =>
        (hvisit _ _ (confined_call hc c.params hvalues)).between _ _

theorem visitCall_same (hplace : place.Confined F V) (callee : Expr) (args : List Element) :
    Same (Confined F V) (visitCall p visit node callee args place)
      (visitCall q visit' node callee args place) := by
  unfold visitCall
  rw [forwarded?_same E hplace]
  split
  · exact hvisit _ _ hplace
  · refine (resolveCallee_same E hvisit hplace callee).bind fun c hc => ?_
    split
    · exact callDeclared_same hvisit hplace hc args
    · refine (visitElements_same hvisit hplace args).bind fun values hvalues => ?_
      cases hc with
      | dynamic hfile => exact hvisit _ _ (confined_call hfile _ hvalues)
    · exact same_stopped hplace.file _ _
    · exact same_stopped hplace.file _ _

end Calls

/-! ### Expressions -/

include E

/-- One step of the evaluation, if the parts are evaluated in the same way. -/
theorem visitExpr_same
    (hvisit : ∀ e place, place.Confined F V → Same (Confined F V) (visit e place) (visit' e place))
    (hplace : place.Confined F V) (node : Expr) :
    Same (Confined F V) (visitExpr p visit node place) (visitExpr q visit' node place) := by
  unfold visitExpr
  split
  case h_1 => exact same_pure (.string _)
  case h_2 => exact same_pure (.number _)
  case h_3 => exact same_pure (.boolean _)
  case h_4 => exact same_pure .null
  case h_5 => exact visitPieces_same hvisit hplace _ _ _
  case h_6 => exact visitIdent_same E hvisit hplace _
  case h_7 => exact visitProperty_same E hvisit hplace _ _
  case h_8 => exact visitElement_same E hvisit hplace _ _
  case h_9 => exact visitCall_same E hvisit hplace _ _
  case h_11 => exact (visitElements_same hvisit hplace _).bind fun vs hvs => same_pure (.array hvs)
  case h_12 => exact visitMembers_same hvisit hplace _ fun _ he => nomatch he
  case h_15 => exact visitUnary_same hvisit hplace _ _
  case h_16 => exact visitBinary_same hvisit hplace _ _ _
  case h_17 => exact visitConditional_same hvisit hplace _ _ _
  all_goals exact same_stopped hplace.file _ _

/-- Evaluation up to any depth does the same in both programs and stays among the given files and
references. -/
theorem visit_same (depth : Nat) (hplace : place.Confined F V) (node : Expr) :
    Same (Confined F V) (Evaluation.visit p depth node place) (Evaluation.visit q depth node place) := by
  induction depth generalizing node place with
  | zero => exact same_stopped hplace.file _ _
  | succ depth ih => exact visitExpr_same E (fun e place hplace => ih hplace e) hplace node

end Enclave

end Evaluation

end ComponentAtlas

import ComponentAtlas.Proofs.Analysis.Contract
import ComponentAtlas.Proofs.Evaluation.Confinement

/-!
# References in values

Evaluation makes a reference where a name leads to a declaration that has no value of its own, and
then only passes it on. So every reference in a value is one to a declaration of the program.

* `Value.Occurs`: the references in a value, also in its items and entries;
* `Referable`: the declarations that are referred to;
* `Reference.Genuine`: a reference agrees with the program;
* `references_genuine`: all references in values agree with the program.
-/

namespace ComponentAtlas

open ComponentAtlas.Script

/-! ### References in a value -/

/-- A reference occurs in a value. -/
inductive Value.Occurs (r : Reference) : Value → Prop
  | here : Occurs r (.reference r)
  | item {items : List Value} {v : Value} (hv : v ∈ items) (inside : Occurs r v) : Occurs r (.array items)
  | entry {entries : List (String × Value)} {key : String} {v : Value} (hv : (key, v) ∈ entries)
      (inside : Occurs r v) : Occurs r (.map entries)

namespace Value

variable {V : Reference → Prop}

theorem Confined.of_occurs {v : Value} {r : Reference} (h : Occurs r v)
    (hv : v.Confined (fun _ => True) V) : V r := by
  induction h with
  | here =>
    cases hv with
    | reference hr => exact hr
  | item hmem _ ih =>
    cases hv with
    | array hitems => exact ih (hitems _ hmem)
  | entry hmem _ ih =>
    cases hv with
    | map hentries => exact ih (hentries _ hmem)

theorem confined_of_forall_occurs : ∀ {v : Value}, (∀ r, Occurs r v → V r) → v.Confined (fun _ => True) V
  | .string s, _ => .string s
  | .number x, _ => .number x
  | .boolean b, _ => .boolean b
  | .null, _ => .null
  | .undefined, _ => .undefined
  | .array _, h => .array fun _ hv => confined_of_forall_occurs fun r hr => h r (.item hv hr)
  | .map _, h => .map fun (_, _) hv => confined_of_forall_occurs fun r hr => h r (.entry hv hr)
  | .reference r, h => .reference (h r .here)
  | .dynamic _, _ => .dynamic trivial
termination_by v => sizeOf v
decreasing_by
  · have hlt := List.sizeOf_lt_of_mem ‹_ ∈ _›
    simp only [array.sizeOf_spec]
    omega
  · have hlt := List.sizeOf_lt_of_mem ‹_ ∈ _›
    simp only [map.sizeOf_spec, Prod.mk.sizeOf_spec] at hlt ⊢
    omega

end Value

/-! ### References that agree with the program -/

/-- A declaration is referred to, and has no other value: a class, a function, an enumeration, or a
variable that has no initializer or one by `new`. -/
inductive Referable : DeclarationKind → Prop
  | cls (body : ClassBody) : Referable (.cls body)
  | function (params : List String) (returns : Option Expr) : Referable (.function params returns)
  | enumeration (members : List EnumMember) : Referable (.enumeration members)
  | bare (type : Option TypeNode) : Referable (.binding none type)
  | made (callee : Expr) (args : List Element) (range : Range) (type : Option TypeNode) :
    Referable (.binding (some (.node (.new callee args) range)) type)

/-- A reference has the number, the name and the file of a declaration of the program that is referred
to. -/
structure Reference.Genuine (p : Program) (r : Reference) : Prop where
  lt : r.id < p.declarations.length
  declared : ∃ d, p.declaration? r.id = some d ∧ r.name = d.name ∧ r.file = d.file ∧ Referable d.kind

namespace Evaluation

theorem referable_of_initializer? {kind : DeclarationKind} (h : initializer? kind = none) :
    Referable kind := by
  unfold initializer? at h
  split at h
  · exact .made ..
  · cases h
  · next hbound =>
    cases kind with
    | cls body => exact .cls body
    | function params returns => exact .function params returns
    | enumeration members => exact .enumeration members
    | binding value type =>
      cases value with
      | none => exact .bare type
      | some init => exact absurd rfl (hbound init type)

theorem genuine_ofDeclaration {p : Program} (hp : p.Numbered) {id : DeclarationId} {d : Declaration}
    (hd : p.declaration? id = some d) (hkind : initializer? d.kind = none) :
    (Reference.ofDeclaration d).Genuine p := by
  obtain rfl : d.id = id := hp id d hd
  exact ⟨(List.getElem?_eq_some_iff.1 hd).1, d, hd, rfl, rfl, referable_of_initializer? hkind⟩

/-- Names lead to declarations whose references agree with the program. -/
theorem inside_genuine {p : Program} (hp : p.Numbered) (target : Target) :
    Inside p p (fun _ => True) (Reference.Genuine p) target := by
  cases target with
  | declaration id => exact ⟨rfl, fun d hd => ⟨trivial, genuine_ofDeclaration hp hd⟩⟩
  | whole file => trivial
  | external module name => trivial

theorem enclave_genuine {p : Program} (hp : p.Numbered) :
    Enclave p p (fun _ => True) (Reference.Genuine p) where
  identifier?_eq _ := rfl
  export?_eq _ := rfl
  identifier?_inside _ _ := inside_genuine hp _
  export?_inside _ _ := inside_genuine hp _
  declaration?_eq _ := rfl
  file_of_reference _ _ := trivial

/-- **All references in values agree with the program.** An expression is evaluated anywhere, with names
bound to values whose own references agree, or a declaration of the program is evaluated. -/
theorem references_genuine {host : Host} {roots : List String} {settings : Settings} {p : Program}
    (hload : Program.load host roots settings = .ok p) (depth : Nat) :
    (∀ (e : Expr) (file : String) (scope : Table String Value),
      (∀ b ∈ scope, ∀ r, b.2.Occurs r → r.Genuine p) →
      ∀ r, (evaluate p depth e file scope).value.Occurs r → r.Genuine p) ∧
    ∀ id d, p.declaration? id = some d →
      ∀ r, (evaluateDeclaration p depth d).value.Occurs r → r.Genuine p := by
  have hp : p.Numbered := Program.load_numbered hload
  have hvisit : ∀ e place, Place.Confined (fun _ => True) (Reference.Genuine p) place →
      Same (Value.Confined (fun _ => True) (Reference.Genuine p)) (visit p depth e place)
        (visit p depth e place) :=
    fun e place hplace => visit_same (enclave_genuine hp) depth hplace e
  refine ⟨fun e file scope hscope r hr => ?_, fun id d _ r hr => ?_⟩
  · have hplace : Place.Confined (fun _ => True) (Reference.Genuine p) { file, scope } :=
      ⟨trivial, fun b hb => Value.confined_of_forall_occurs (hscope b hb)⟩
    exact Value.Confined.of_occurs hr ((hvisit e _ hplace).2 {})
  · have hplace : Place.Confined (fun _ => True) (Reference.Genuine p) { file := d.file } :=
      confined_file trivial
    have hvalue : Same (Value.Confined (fun _ => True) (Reference.Genuine p))
        (visitDeclaration p (visit p depth) (.node (.ident d.name) d.range) d.id { file := d.file }) _ :=
      visitDeclaration_same hvisit hplace (inside_genuine hp (.declaration d.id))
    exact Value.Confined.of_occurs hr (hvalue.2 {})

/-- Declarations of all kinds, and a variable that holds all of them. -/
def mixedHost : Host :=
  .ofList [("/a.ts", "export class C \x7b\x7d enum E \x7b A \x7d function f() \x7b\x7d let bare; " ++
    "const made = new C(); const number = 1; const all = [C, \x7b k: [E, f, bare, made, number] \x7d];")]

/-- The program of this file. -/
def mixed : Program := ((Program.load mixedHost ["/a.ts"] {}).toOption).getD {}

theorem mixed_load : Program.load mixedHost ["/a.ts"] {} = .ok mixed :=
  Program.load_getD (by decide +kernel)

theorem genuine_mixed : (Reference.mk 0 "C" "/a.ts").Genuine mixed := by
  have hclass : ((mixed.declaration? 0).map fun d => (Reference.ofDeclaration d, (initializer? d.kind).isNone)) =
      some (⟨0, "C", "/a.ts"⟩, true) := by
    decide +kernel
  obtain ⟨d, hd, hclass⟩ := Option.map_eq_some_iff.1 hclass
  obtain ⟨hreference, hkind⟩ := Prod.mk.inj hclass
  rw [← hreference]
  exact genuine_ofDeclaration (Program.load_numbered mixed_load) hd (Option.isNone_iff_eq_none.1 hkind)

/-- The variable that holds all, and a name that is bound to one of the references. -/
theorem references_genuine_mixed :
    (∃ d, mixed.declaration? 6 = some d ∧
      (evaluateDeclaration mixed 9 d).value.render = "[C, \x7b k: [E, f, bare, made, 1] \x7d]" ∧
      ∀ r, (evaluateDeclaration mixed 9 d).value.Occurs r → r.Genuine mixed) ∧
    ∀ r, (evaluate mixed 9 (.node (.ident "x") {}) "/a.ts" [("x", .reference ⟨0, "C", "/a.ts"⟩)]).value.Occurs r →
      r.Genuine mixed := by
  have hrender : ((mixed.declaration? 6).map fun d => (evaluateDeclaration mixed 9 d).value.render) =
      some "[C, \x7b k: [E, f, bare, made, 1] \x7d]" := by
    decide +kernel
  obtain ⟨hexpression, hdeclaration⟩ := references_genuine mixed_load 9
  obtain ⟨d, hd, hrender⟩ := Option.map_eq_some_iff.1 hrender
  refine ⟨⟨d, hd, hrender, hdeclaration 6 d hd⟩, hexpression _ _ _ fun b hb r hr => ?_⟩
  obtain rfl := List.mem_singleton.1 hb
  cases hr
  exact genuine_mixed

end Evaluation

end ComponentAtlas

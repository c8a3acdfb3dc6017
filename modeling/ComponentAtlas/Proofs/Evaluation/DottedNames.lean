import ComponentAtlas.Proofs.Analysis.Contract
import ComponentAtlas.Proofs.Evaluation.FunctionScope

/-!
# Dotted names

A dotted name is looked up as the name of a type, evaluated as an access to properties, or called. The
first lookup goes through every whole file on the way and through modules outside the program. An
evaluation goes through a whole file once, at the beginning, and keeps the star that stands for a whole
outside module; a call does not go through whole files at all.

* `Spells`: the expressions that are written as a dotted name;
* `Straight`: the dotted names that an evaluation follows;
* `Missed`: the values of the others;
* `Denotes`: the value of an expression is what a name refers to;
* `straight_or_missed`, `evaluate_straight`: one part of the name after the other;
* `dottedNames_agree`: when the lookups agree.
-/

namespace ComponentAtlas.Evaluation

open ComponentAtlas.Script

/-- An expression is written as a name of a file and further names behind it. -/
inductive Spells : Expr → String → List String → Prop
  | ident {name : String} {range : Range} : Spells (.node (.ident name) range) name []
  | property {object : Expr} {name first : String} {segments : List String} {range : Range}
    (h : Spells object first segments) :
    Spells (.node (.property object name) range) first (segments ++ [name])

/-- The dotted names that an evaluation follows, and what they refer to. -/
inductive Straight (p : Program) (file first : String) : List String → Target → Prop
  /-- A name of the file. -/
  | name {t : Target} (h : p.identifier? first file = some t) (hne : first ≠ "undefined") :
    Straight p file first [] t
  /-- A name that is exported by a whole file. -/
  | member {whole segment : String} {t : Target} (h : p.identifier? first file = some (.whole whole))
    (ht : p.export? whole segment = some t) : Straight p file first [segment] t
  /-- A name below a name of an outside module, but not below the whole module. -/
  | external {segments : List String} {module name segment : String}
    (h : Straight p file first segments (.external module name)) (hname : name ≠ "*") :
    Straight p file first (segments ++ [segment]) (.external module (name ++ "." ++ segment))

/-- A value is what a name refers to: a reference to the declaration, or the name of the same module
outside the program, or the same file as a whole. -/
def Denotes (p : Program) (v : Value) : Target → Prop
  | .declaration id => ∃ d, p.declaration? id = some d ∧ v = .reference (.ofDeclaration d)
  | .external module name => v.asExternal? = some (module, name)
  | .whole file => ∃ node source, v = .dynamic (.mk node source (.wholeModule file))

/-- The value of an expression whose evaluation loses what the name refers to. The name of an outside
module is too long. -/
inductive Missed (e : Expr) (place : Place) : Target → Value → Prop
  | undefined {t : Target} : Missed e place t .undefined
  | operand {t : Target} : Missed e place t (stopped e place (.invalidOperand "property access"))
  | input {t : Target} {inner : Dynamic} : Missed e place t (dependent e place inner)
  | external {module name long : String} (h : name.length < long.length) :
    Missed e place (.external module name) (stopped e place (.external module long))

section Chains

variable {p : Program} {file first : String} {segments : List String} {e object : Expr} {name : String}
  {range : Range} {t : Target} {depth : Nat}

theorem visit_property_of_none (h : wholeFile? p object { file } = none) :
    visit p (depth + 1) (.node (.property object name) range) { file } = (do
      let receiver ← visit p depth object { file }
      property p (visit p depth) (.node (.property object name) range) receiver name { file }) := by
  show visitProperty p (visit p depth) (.node (.property object name) range) object name { file } = _
  rw [visitProperty, h]

theorem visit_property_of_whole {whole : String} (h : wholeFile? p object { file } = some whole)
    (ht : p.export? whole name = some t) :
    visit p (depth + 1) (.node (.property object name) range) { file } =
      visitTarget p (visit p depth) (.node (.property object name) range) t { file } := by
  show visitProperty p (visit p depth) (.node (.property object name) range) object name { file } = _
  rw [visitProperty, h]
  simp only [ht]

/-- Only the first name of an expression can stand for a whole file. -/
theorem wholeFile?_spells (h : Spells object first segments) :
    wholeFile? p object { file } = if segments = [] then
      (match p.identifier? first file with
      | some (.whole whole) => some whole
      | _ => none) else none := by
  cases h with
  | ident => rfl
  | property h => simp [wholeFile?, Expr.asIdent?, Expr.shape]

theorem visit_ident (hident : p.identifier? first file = some t) (hne : first ≠ "undefined") :
    visit p (depth + 1) (.node (.ident first) range) { file } =
      visitTarget p (visit p depth) (.node (.ident first) range) t { file } := by
  show visitIdent p (visit p depth) _ first { file } = _
  simp [visitIdent, hident, hne]

theorem Spells.exists_ident (h : Spells e first []) : ∃ range, e = .node (.ident first) range := by
  generalize hsegments : [] = segments at h
  cases h with
  | @ident _ range => exact ⟨range, rfl⟩
  | property h => simp at hsegments

theorem Spells.exists_property (h : Spells e first (segments ++ [name])) :
    ∃ object range, e = .node (.property object name) range ∧ Spells object first segments := by
  generalize hsegments : segments ++ [name] = all at h
  cases h with
  | ident => simp at hsegments
  | @property object _ _ _ range h =>
    obtain ⟨rfl, hname⟩ := List.append_inj' hsegments rfl
    cases hname
    exact ⟨object, range, rfl, h⟩

/-- What an evaluation follows a dotted name to is what the name refers to. -/
theorem Straight.refers (h : Straight p file first segments t) :
    ∃ start, p.identifier? first file = some start ∧ segments.foldlM p.qualify start = some t := by
  induction h with
  | @name t hident hne => exact ⟨t, hident, rfl⟩
  | @member whole segment t hident ht => exact ⟨_, hident, by simpa [Program.qualify] using ht⟩
  | @external segments module name segment h hname ih =>
    obtain ⟨start, hstart, hfold⟩ := ih
    exact ⟨start, hstart, by simp [List.foldlM_append, hfold, Program.qualify, hname]⟩

/-- The evaluation of a dotted name that it follows is the evaluation of what the name refers to. -/
theorem Straight.visit_eq (h : Straight p file first segments t) (he : Spells e first segments)
    (hdepth : segments.length ≤ depth) :
    visit p (depth + 1) e { file } = visitTarget p (visit p depth) e t { file } := by
  induction h generalizing e depth with
  | name hident hne =>
    obtain ⟨range, rfl⟩ := he.exists_ident
    exact visit_ident hident hne
  | @member whole segment t hident ht =>
    have he : Spells e first ([] ++ [segment]) := he
    obtain ⟨object, range, rfl, hobject⟩ := he.exists_property
    exact visit_property_of_whole (by rw [wholeFile?_spells hobject, hident]; rfl) ht
  | @external segments module name segment h hname ih =>
    obtain ⟨object, range, rfl, hobject⟩ := he.exists_property
    obtain ⟨depth, rfl⟩ := Nat.exists_eq_add_one_of_ne_zero (n := depth) (by simp at hdepth; omega)
    have hnone : wholeFile? p object { file } = none := by
      rw [wholeFile?_spells hobject]
      split
      · next hnil =>
        subst hnil
        obtain ⟨_, hstart, ⟨⟩⟩ := h.refers
        rw [hstart]
      · rfl
    rw [visit_property_of_none hnone, ih hobject (by simp at hdepth; omega)]
    rfl

/-- A further name behind a dotted name whose evaluation missed what it refers to. -/
theorem Missed.property {v : Value} {t' : Target} (h : Missed object { file } t v)
    (ht : p.qualify t name = some t') (visit : Visit) :
    ∃ v', ComponentAtlas.Evaluation.property p visit e v name { file } = pure v' ∧
      Missed e { file } t' v' := by
  cases h with
  | undefined => exact ⟨_, rfl, .operand⟩
  | operand => exact ⟨_, rfl, .input⟩
  | input => exact ⟨_, rfl, .input⟩
  | @external module short long h =>
    cases ht
    refine ⟨_, rfl, .external ?_⟩
    split <;> simp only [String.length_append] <;> omega

/-- The evaluation of a dotted name follows it, or misses what it refers to. -/
theorem straight_or_missed (he : Spells e first segments) {start : Target}
    (hstart : p.identifier? first file = some start) (ht : segments.foldlM p.qualify start = some t)
    (hdepth : segments.length ≤ depth) :
    Straight p file first segments t ∨
      ∃ v, visit p (depth + 1) e { file } = pure v ∧ Missed e { file } t v := by
  induction he generalizing t depth with
  | @ident name range =>
    cases ht
    by_cases hne : name = "undefined"
    · subst hne
      exact .inr ⟨.undefined, rfl, .undefined⟩
    · exact .inl (.name hstart hne)
  | @property object name first segments range hobject ih =>
    have hlength : segments.length + 1 ≤ depth := by simpa using hdepth
    obtain ⟨depth, rfl⟩ := Nat.exists_eq_add_one_of_ne_zero (n := depth) (by omega)
    simp only [List.foldlM_append, List.foldlM_cons, List.foldlM_nil, Option.bind_eq_bind, bind_pure,
      Option.bind_eq_some_iff] at ht
    obtain ⟨t', ht', hqualify⟩ := ht
    cases hwhole : wholeFile? p object { file } with
    | some whole =>
      -- the first name stands for a whole file, and the next one is exported by it
      rw [wholeFile?_spells hobject, hstart] at hwhole
      split at hwhole
      · next hnil =>
        subst hnil
        cases ht'
        cases start with
        | whole whole => exact .inl (.member hstart hqualify)
        | declaration id => cases hwhole
        | external module name => cases hwhole
      · cases hwhole
    | none =>
      rw [visit_property_of_none hwhole]
      rcases ih hstart ht' (show segments.length ≤ depth by omega) with hstraight | ⟨v, hv, hmissed⟩
      · rw [hstraight.visit_eq hobject (by omega)]
        cases t' with
        | declaration id => cases hqualify
        | whole whole => exact .inr ⟨_, rfl, .input⟩
        | external module short =>
          cases hqualify
          by_cases hstar : short = "*"
          · subst hstar
            refine .inr ⟨_, rfl, .external ?_⟩
            show name.length < ("*" ++ "." ++ name).length
            have hstar : "*".length = 1 := rfl
            simp only [String.length_append, hstar]
            omega
          · rw [if_neg (by simpa using hstar)]
            exact .inl (.external hstraight hstar)
      · obtain ⟨v', hv', hmissed'⟩ := hmissed.property hqualify (visit p (depth + 1))
        rw [hv]
        exact .inr ⟨v', hv', hmissed'⟩

/-! ### Values of dotted names -/

/-- What is not the value of a variable is denoted by its own value. -/
theorem denotes_visitTarget (ht : ∀ id, t = .declaration id → ∃ d, p.declaration? id = some d ∧
    initializer? d.kind = none) (visit : Visit) (a : Activity) :
    Denotes p (visitTarget p visit e t { file } a).1 t := by
  cases t with
  | declaration id =>
    obtain ⟨d, hd, hinit⟩ := ht id rfl
    refine ⟨d, hd, ?_⟩
    rw [visitTarget, visitDeclaration_eq, hd]
    simp only [hinit]
    rfl
  | whole whole => exact ⟨e, file, rfl⟩
  | external module name => rfl

theorem Missed.not_denotes {place : Place} {v : Value} (h : Missed e place t v) : ¬ Denotes p v t := by
  intro hdenotes
  cases t with
  | declaration id =>
    obtain ⟨d, -, rfl⟩ := hdenotes
    cases h
  | whole whole =>
    obtain ⟨node, source, rfl⟩ := hdenotes
    cases h
  | external module name =>
    cases h with
    | external h =>
      cases hdenotes
      exact lt_irrefl _ h
    | undefined => cases hdenotes
    | operand => cases hdenotes
    | input => cases hdenotes

/-! ### Calls of dotted names -/

/-- A function is called by a name of the file: what happens does not depend on the name. -/
theorem visit_call_ident (hp : p.Numbered) {id : DeclarationId} {d : Declaration} {params : List String}
    {body : Expr} (hd : p.declaration? id = some d) (hkind : d.kind = .function params (some body))
    (hident : p.identifier? first file = some (.declaration id)) (hne : first ≠ "undefined")
    (args : List Element) (callRange : Range) :
    visit p (depth + 2) (.node (.call (.node (.ident first) range) args) callRange) { file } {} =
      (do
        let values ← visitElements (visit p (depth + 1)) { file } args
        modify fun a => { a with calls := (id, d.name) :: a.calls }
        let result ← visit p (depth + 1) body { file := d.file, scope := bindParameters params values [] }
        modify fun a => { a with calls := a.calls.tail }
        return result : Eval Value) { edges := [(file, d.file)] } := by
  have hforward : forwarded? p (.node (.ident first) range) args { file } = none := by
    unfold forwarded?
    split
    · rfl
    · next hname =>
      have hfirst : first = "forwardRef" := by
        simp only [Expr.asIdent?, Expr.shape, Bool.or_eq_true, bne_iff_ne, not_or, ne_eq, not_not] at hname
        exact Option.some.inj hname.1
      subst hfirst
      simp [hident, hd, hkind]
  have hcallee : resolveCallee p (visit p (depth + 1)) (.node (.ident first) range) { file } {} =
      (.inl ⟨id, none, d.name, d.file, params, some body⟩, { edges := [(file, d.file)] }) := by
    have hfunction : function? p (.ofDeclaration d) = some ⟨id, none, d.name, d.file, params, some body⟩ := by
      have hid := hp id d hd
      subst hid
      simp [function?, Reference.ofDeclaration, hd, hkind]
    have hvalue : visit p (depth + 1) (.node (.ident first) range) { file } {} =
        (.reference (.ofDeclaration d), { edges := [(file, d.file)] }) := by
      rw [visit_ident hident hne, visitTarget, visitDeclaration_eq, hd]
      simp only [hkind]
      rfl
    unfold resolveCallee
    dsimp only [Expr.shape]
    rw [bind_apply, hvalue]
    simp only [Value.asReference?, Option.bind_some, hfunction]
    rfl
  show visitCall p (visit p (depth + 1)) _ _ args { file } {} = _
  unfold visitCall
  rw [hforward]
  dsimp only
  rw [bind_apply, hcallee]
  rfl

/-- A function that is called behind a whole file is not found. -/
theorem visit_call_property (he : Spells e first segments) (hne : segments ≠ []) {start : Target}
    (hstart : p.identifier? first file = some start) {id : DeclarationId}
    (ht : segments.foldlM p.qualify start = some (.declaration id)) (hdepth : segments.length ≤ depth)
    (args : List Element) (range : Range) :
    ∃ inner, visit p (depth + 1) (.node (.call e args) range) { file } =
      pure (dependent (.node (.call e args) range) { file } inner) := by
  obtain ⟨before, name, rfl⟩ : ∃ before name, segments = before ++ [name] :=
    ⟨_, _, (List.dropLast_concat_getLast hne).symm⟩
  obtain ⟨object, range', rfl, hobject⟩ := he.exists_property
  have hlength : before.length + 1 ≤ depth := by simpa using hdepth
  obtain ⟨depth, rfl⟩ := Nat.exists_eq_add_one_of_ne_zero (n := depth) (by omega)
  simp only [List.foldlM_append, List.foldlM_cons, List.foldlM_nil, Option.bind_eq_bind, bind_pure,
    Option.bind_eq_some_iff] at ht
  obtain ⟨t, ht, hqualify⟩ := ht
  have hvalue : ∃ v reason, visit p (depth + 1) object { file } = pure v ∧ v.asReference? = none ∧
      property p (visit p (depth + 1)) (.node (.property object name) range') v name { file } =
        pure (stopped (.node (.property object name) range') { file } reason) := by
    -- only a whole file leads on to a declaration, and its value has no properties
    cases t with
    | declaration id => cases hqualify
    | external module name => cases hqualify
    | whole whole =>
      have hshort : before.length ≤ depth := by omega
      rcases straight_or_missed hobject hstart ht hshort with hstraight | ⟨v, hv, hmissed⟩
      · rw [hstraight.visit_eq hobject hshort]
        exact ⟨_, _, rfl, rfl, rfl⟩
      · rw [hv]
        cases hmissed <;> exact ⟨_, _, rfl, rfl, rfl⟩
  obtain ⟨v, reason, hv, hnone, hproperty⟩ := hvalue
  have hcallee : resolveCallee p (visit p (depth + 1)) (.node (.property object name) range') { file } =
      pure (.inr (stopped (.node (.property object name) range') { file } reason)) := by
    unfold resolveCallee
    dsimp only [Expr.shape]
    rw [hv, pure_bind, hnone, hproperty]
    rfl
  refine ⟨.mk (.node (.property object name) range') file reason, ?_⟩
  show visitCall p (visit p (depth + 1)) (.node (.call (.node (.property object name) range') args) range)
    (.node (.property object name) range') args { file } = _
  unfold visitCall
  rw [hcallee]
  rfl

end Chains

/-- **When the lookups of a dotted name agree.** A dotted name refers to something that is not the value
of a variable. The value of the same name as an expression denotes it exactly if the evaluation follows
the name: it is a name of the file, or a name exported by a whole file, or a name below a name of an
outside module, but not below a whole outside module. A function is called as it is by every other name
of the file for it if the name has one part, and is not found if the name has several parts. -/
theorem dottedNames_agree {p : Program} (hp : p.Numbered) {file name first : String}
    {segments : List String} {e : Expr} {t : Target} {depth : Nat}
    (hname : Text.splitOn '.' name = first :: segments) (he : Spells e first segments)
    (ht : p.entity? name file = some t) (hdepth : segments.length < depth)
    (hvalue : ∀ id, t = .declaration id → ∃ d, p.declaration? id = some d ∧ initializer? d.kind = none) :
    (Denotes p (evaluate p depth e file []).value t ↔ Straight p file first segments t) ∧
    ∀ id d params body, t = .declaration id → p.declaration? id = some d →
      d.kind = .function params (some body) → ∀ args range,
      (segments = [] → first ≠ "undefined" → 1 < depth → ∀ other range', other ≠ "undefined" →
        p.identifier? other file = some t →
        evaluate p depth (.node (.call e args) range) file [] =
          evaluate p depth (.node (.call (.node (.ident other) range') args) range) file []) ∧
      (segments ≠ [] → ∃ inner, (evaluate p depth (.node (.call e args) range) file []).value =
        .dynamic (.mk (.node (.call e args) range) file (.input inner))) := by
  rw [Program.entity?, hname] at ht
  obtain ⟨start, hstart, ht⟩ := Option.bind_eq_some_iff.1 ht
  obtain ⟨depth, rfl⟩ := Nat.exists_eq_add_one_of_ne_zero (n := depth) (by omega)
  have hdepth : segments.length ≤ depth := Nat.le_of_lt_succ hdepth
  refine ⟨⟨fun hdenotes => ?_, fun hstraight => ?_⟩, ?_⟩
  · rcases straight_or_missed he hstart ht hdepth with hstraight | ⟨v, hv, hmissed⟩
    · exact hstraight
    · rw [evaluate, hv] at hdenotes
      exact absurd hdenotes hmissed.not_denotes
  · rw [evaluate, hstraight.visit_eq he hdepth]
    exact denotes_visitTarget hvalue _ _
  · rintro id d params body rfl hd hkind args range
    refine ⟨?_, fun hne => ?_⟩
    · rintro rfl hne hone other range' hother hident
      obtain ⟨range'', rfl⟩ := he.exists_ident
      cases ht
      obtain ⟨depth, rfl⟩ := Nat.exists_eq_add_one_of_ne_zero (n := depth) (by omega)
      unfold evaluate Eval.outcome StateT.run
      rw [visit_call_ident hp hd hkind hstart hne, visit_call_ident hp hd hkind hident hother]
    · obtain ⟨inner, hinner⟩ :=
        visit_call_property he hne hstart ht hdepth args range
      rw [evaluate, hinner]
      exact ⟨inner, rfl⟩

/-- A reference to a function with a body. -/
theorem exists_of_function? {p : Program} {r : Reference} (h : ((function? p r).bind (·.body)).isSome) :
    ∃ d params body, p.declaration? r.id = some d ∧ d.kind = .function params (some body) := by
  simp only [function?, Option.bind_eq_bind] at h
  cases hd : p.declaration? r.id with
  | none => simp [hd] at h
  | some d =>
    cases hkind : d.kind with
    | function params returns =>
      cases returns with
      | none => simp [hd, hkind] at h
      | some body => exact ⟨d, params, body, rfl, hkind⟩
    | _ => simp [hd, hkind] at h

/-- A file that imports a whole outside module and a whole file, which exports another whole file. -/
def wholeHost : Host :=
  .ofList [("/a.ts", "import * as core from '@angular/core'; import * as ns from './b'; " ++
      "import \x7b f \x7d from './b';"),
    ("/b.ts", "import * as inner from './c'; export \x7b inner \x7d; " ++
      "export function f(x) \x7b return x; \x7d"),
    ("/c.ts", "export class C \x7b\x7d")]

/-- The program of these files. -/
def wholeNames : Program := ((Program.load wholeHost ["/a.ts", "/b.ts", "/c.ts"] {}).toOption).getD {}

theorem wholeNames_load : Program.load wholeHost ["/a.ts", "/b.ts", "/c.ts"] {} = .ok wholeNames :=
  Program.load_getD (by decide +kernel)

/-- The expression of two names with a dot between them. -/
def dotted (first second : String) : Expr := .node (.property (.node (.ident first) {}) second) {}

/-- A function of a whole file: the value denotes it, but it cannot be called. -/
theorem dottedNames_agree_wholeNames :
    wholeNames.entity? "ns.f" "/a.ts" = some (.declaration 0) ∧
    Denotes wholeNames (evaluate wholeNames 9 (dotted "ns" "f") "/a.ts" []).value (.declaration 0) ∧
    ∃ inner, (evaluate wholeNames 9 (calledWith (dotted "ns" "f") "b") "/a.ts" []).value =
      .dynamic (.mk (calledWith (dotted "ns" "f") "b") "/a.ts" (.input inner)) := by
  have hfacts : wholeNames.entity? "ns.f" "/a.ts" = some (.declaration 0) ∧
      wholeNames.identifier? "ns" "/a.ts" = some (.whole "/b.ts") ∧
      wholeNames.export? "/b.ts" "f" = some (.declaration 0) ∧
      ((function? wholeNames ⟨0, "f", "/b.ts"⟩).bind (·.body)).isSome := by
    decide +kernel
  obtain ⟨hentity, hwhole, hexport, hfunction⟩ := hfacts
  obtain ⟨d, params, body, hd, hkind⟩ := exists_of_function? hfunction
  obtain ⟨hdenotes, hcalls⟩ := dottedNames_agree (Program.load_numbered wholeNames_load)
    (by decide +kernel) (.property .ident : Spells (dotted "ns" "f") "ns" ["f"]) hentity
    (show 1 < 9 by decide)
    (by rintro _ ⟨⟩; exact ⟨d, hd, by rw [hkind]; rfl⟩)
  have hcall := hcalls 0 d params body rfl hd hkind
  exact ⟨hentity, hdenotes.2 (.member hwhole hexport), (hcall _ _).2 (List.cons_ne_nil _ _)⟩

/-- Names for which the lookups disagree: a name of a whole outside module, a class of a whole file that
another whole file exports, and the call of a function of a whole file. -/
theorem dottedNames_disagree :
    (wholeNames.entity? "core.Injectable" "/a.ts" = some (.external "@angular/core" "Injectable") ∧
      (evaluate wholeNames 9 (dotted "core" "Injectable") "/a.ts" []).value.asExternal? =
        some ("@angular/core", "*.Injectable")) ∧
    (wholeNames.entity? "ns.inner.C" "/a.ts" = some (.declaration 1) ∧
      (evaluate wholeNames 9 (.node (.property (dotted "ns" "inner") "C") {}) "/a.ts" []).value.asReference? =
        none) ∧
    wholeNames.entity? "ns.f" "/a.ts" = wholeNames.identifier? "f" "/a.ts" ∧
    (evaluate wholeNames 9 (calledWith (.node (.ident "f") {}) "b") "/a.ts" []).value.asString? = some "b" ∧
    (evaluate wholeNames 9 (calledWith (dotted "ns" "f") "b") "/a.ts" []).value.asString? = none := by
  decide +kernel

end ComponentAtlas.Evaluation

import ComponentAtlas.Proofs.Program.Inheritance
import ComponentAtlas.Proofs.Roles.Locality

/-!
# What constructors ask for

A class asks for what the nearest constructor asks for that is declared by itself or above it. Every
parameter is read in the file of the class that declares the constructor: its decorators change the
dependency one after the other, and without a token from them the type stands for one.

* `Names`: the token that the type of a parameter stands for;
* `Yields`: the result of a computation, whatever lies on the desk;
* `Decorated`: what decorators do to a dependency; `foldlM_decorated`: one after the other;
* `Asks`, `Lacks`: what a parameter asks for, and why it has no token;
* `parameters_answer`: the dependencies of a list of parameters;
* `dependencies_inherited`: the dependencies of a class.
-/

namespace ComponentAtlas

open ComponentAtlas.Script

/-- The decorators that only set a flag of a dependency, each with its flag. -/
def InjectFlags.named : List (String × (InjectFlags → Bool)) :=
  [("Optional", (·.optional)), ("Host", (·.host)), ("Self", (·.self)), ("SkipSelf", (·.skipSelf))]

namespace Work

/-! ### Tokens from types -/

/-- The type of a parameter of a file names something that can be a token. -/
inductive Names (p : Program) (file : String) (q : Parameter) : Value → Prop
  | declared {name : String} {args : List TypeNode} {id : DeclarationId}
    (htype : q.type = some (.reference name args)) (hname : p.entity? name file = some (.declaration id)) :
    Names p file q (.reference (p.reference id))
  | external {name : String} {args : List TypeNode} {module imported : String}
    (htype : q.type = some (.reference name args))
    (hname : p.entity? name file = some (.external module imported)) :
    Names p file q (.dynamic (.mk (.node (.ident name) q.range) file (.external module imported)))

theorem typeToken_eq_ok_iff {p : Program} {file : String} {q : Parameter} {v : Value} :
    p.typeToken file q = .ok v ↔ Names p file q v := by
  constructor
  · intro h
    unfold Program.typeToken at h
    split at h
    · cases h
    · cases h
    · next name args htype =>
      split at h
      · next id hname =>
        cases h
        exact .declared htype hname
      · next module imported hname =>
        cases h
        exact .external htype hname
      · cases h
      · cases h
    · cases h
  · intro h
    unfold Program.typeToken
    cases h with
    | declared htype hname => rw [htype]; simp only [hname]
    | external htype hname => rw [htype]; simp only [hname]

/-! ### Decorators of parameters -/

/-- A decorator of the core package with a name is among some decorators. -/
def Marked (ds : List Decorator) (name : String) : Prop := ∃ d ∈ ds, d.isCore ∧ d.shortName = name

/-- The first arguments of the decorators of the core package with one of some names, in order. -/
def arguments (names : List String) (ds : List Decorator) : List Expr :=
  ds.filterMap fun d => if d.isCore ∧ d.shortName ∈ names then d.firstArg? else none

/-- What decorators do to a dependency: they set flags, and the last one that names a token or an
attribute counts. -/
structure Decorated (cx : Context) (file : String) (ds : List Decorator) (dep dep' : Dependency) : Prop where
  name : dep'.paramName = dep.paramName
  flags : ∀ f ∈ InjectFlags.named, f.2 dep'.flags = true ↔ f.2 dep.flags = true ∨ Marked ds f.1
  token : dep'.token = ((arguments ["Inject", "Attribute"] ds).getLast?.map (cx.valueOf · file)).or dep.token
  attributeName : dep'.attributeName =
    ((arguments ["Attribute"] ds).getLast?.map fun e => (cx.valueOf e file).asString?).getD dep.attributeName

section Decorators

variable {cx : Context} {file : String} {ds ds' : List Decorator} {dep dep' dep'' : Dependency}

theorem marked_append {name : String} : Marked (ds ++ ds') name ↔ Marked ds name ∨ Marked ds' name := by
  simp [Marked, or_and_right, exists_or]

theorem arguments_append (names : List String) (ds ds' : List Decorator) :
    arguments names (ds ++ ds') = arguments names ds ++ arguments names ds' := List.filterMap_append

theorem marked_singleton {d : Decorator} (hcore : d.isCore) {name : String} :
    Marked [d] name ↔ d.shortName = name := by
  simp [Marked, hcore]

theorem arguments_singleton {d : Decorator} (hcore : d.isCore) (names : List String) :
    arguments names [d] = if d.shortName ∈ names then d.firstArg?.toList else [] := by
  by_cases hname : d.shortName ∈ names
  · cases harg : d.firstArg? <;> simp [arguments, hcore, hname, harg]
  · simp [arguments, hcore, hname]

/-- A decorator from elsewhere does nothing. -/
theorem decorated_other {d : Decorator} (hcore : ¬ d.isCore) (dep : Dependency) :
    Decorated cx file [d] dep dep := by
  have hmarked : ∀ name, ¬ Marked [d] name := by
    rintro name ⟨d', hd', hcore', -⟩
    exact hcore (List.mem_singleton.1 hd' ▸ hcore')
  have harguments : ∀ names, arguments names [d] = [] := fun names => by simp [arguments, hcore]
  exact ⟨rfl, fun f _ => by simp [hmarked], by simp [harguments], by simp [harguments]⟩

/-- A decorator that names no token may set flags. -/
theorem decorated_flags {d : Decorator} (hcore : d.isCore) {flags : InjectFlags} (dep : Dependency)
    (hflags : ∀ f ∈ InjectFlags.named, f.2 flags = true ↔ f.2 dep.flags = true ∨ d.shortName = f.1)
    (harg : d.shortName = "Inject" ∨ d.shortName = "Attribute" → d.firstArg? = none) :
    Decorated cx file [d] dep { dep with flags } := by
  have harguments : ∀ names ⊆ ["Inject", "Attribute"], arguments names [d] = [] := by
    intro names hnames
    rw [arguments_singleton hcore]
    split
    · next hname => rw [harg (by simpa using hnames hname), Option.toList_none]
    · rfl
  constructor
  · rfl
  · intro f hf
    rw [marked_singleton hcore, hflags f hf]
  · rw [harguments _ (List.Subset.refl _)]
    rfl
  · rw [harguments _ (by simp)]
    rfl

theorem Decorated.append (h : Decorated cx file ds dep dep') (h' : Decorated cx file ds' dep' dep'') :
    Decorated cx file (ds ++ ds') dep dep'' where
  name := h'.name.trans h.name
  flags f hf := by rw [h'.flags f hf, h.flags f hf, marked_append, or_assoc]
  token := by
    rw [h'.token, h.token, arguments_append, List.getLast?_append]
    cases (arguments ["Inject", "Attribute"] ds').getLast? <;> rfl
  attributeName := by
    rw [h'.attributeName, h.attributeName, arguments_append, List.getLast?_append]
    cases (arguments ["Attribute"] ds').getLast? <;> rfl

end Decorators

section Computations

variable {cx : Context} {file : String} {β γ : Type} {x : Work β} {f : β → Work γ}
  {P : β → Prop} {Q : γ → Prop}

/-- The result of a computation satisfies a condition, whatever lies on the desk. -/
def Yields (x : Work β) (P : β → Prop) : Prop := ∀ desk, P (x desk).1

theorem Yields.pure {b : β} (h : P b) : Yields (Pure.pure b) P := fun _ => h

theorem Yields.bind (hx : Yields x P) (hf : ∀ b, P b → Yields (f b) Q) : Yields (x >>= f) Q :=
  fun desk => hf _ (hx desk) _

theorem evaluate_yields (e : Expr) : Yields (evaluate cx e file) fun v => v = cx.valueOf e file := fun _ => rfl

theorem applyDecorator_decorated (dep : Dependency) (d : Decorator) :
    Yields (applyDecorator cx file dep d) (Decorated cx file [d] dep) := by
  unfold applyDecorator
  by_cases hcore : d.isCore
  · rw [if_neg (by simp [hcore])]
    split
    · next hname => exact .pure (decorated_flags hcore dep (by simp [InjectFlags.named, hname]) (by simp [hname]))
    · next hname => exact .pure (decorated_flags hcore dep (by simp [InjectFlags.named, hname]) (by simp [hname]))
    · next hname => exact .pure (decorated_flags hcore dep (by simp [InjectFlags.named, hname]) (by simp [hname]))
    · next hname => exact .pure (decorated_flags hcore dep (by simp [InjectFlags.named, hname]) (by simp [hname]))
    · next arg hname harg =>
      refine .bind (evaluate_yields arg) ?_
      rintro v rfl
      refine .pure ⟨rfl, ?_, ?_, ?_⟩
      · simp [InjectFlags.named, marked_singleton hcore, hname]
      · simp [arguments_singleton hcore, hname, harg]
      · simp [arguments_singleton hcore, hname]
    · next arg hname harg =>
      refine .bind (evaluate_yields arg) ?_
      rintro v rfl
      refine .pure ⟨rfl, ?_, ?_, ?_⟩
      · simp [InjectFlags.named, marked_singleton hcore, hname]
      · simp [arguments_singleton hcore, hname, harg]
      · simp [arguments_singleton hcore, hname, harg]
    · next hoptional hhost hself hskip hinject hattribute =>
      refine .pure (decorated_flags hcore dep ?_ ?_)
      · simpa [InjectFlags.named] using ⟨fun h => (hoptional h).elim, fun h => (hhost h).elim,
          fun h => (hself h).elim, fun h => (hskip h).elim⟩
      · intro hname
        cases harg : d.firstArg? with
        | none => rfl
        | some arg =>
          rcases hname with hname | hname
          · exact (hinject arg hname harg).elim
          · exact (hattribute arg hname harg).elim
  · rw [if_pos (by simp [hcore])]
    exact .pure (decorated_other hcore dep)

theorem foldlM_decorated (ds : List Decorator) (dep : Dependency) :
    Yields (ds.foldlM (applyDecorator cx file) dep) (Decorated cx file ds dep) := by
  induction ds generalizing dep with
  | nil => exact .pure ⟨rfl, by simp [Marked], by simp [arguments], by simp [arguments]⟩
  | cons d ds ih =>
    rw [List.foldlM_cons]
    refine .bind (applyDecorator_decorated dep d) ?_
    intro dep' hfirst desk
    exact hfirst.append (ih dep' desk)

end Computations

/-! ### Parameters -/

/-- What a parameter of a file asks for. A decorator that names a token takes precedence of the type. -/
structure Asks (cx : Context) (file : String) (q : Parameter) (dep : Dependency) : Prop where
  name : dep.paramName = q.name
  flags : ∀ f ∈ InjectFlags.named, f.2 dep.flags = true ↔ Marked q.decorators f.1
  attributeName : dep.attributeName =
    (arguments ["Attribute"] q.decorators).getLast?.bind fun e => (cx.valueOf e file).asString?
  token_of_argument : ∀ e, (arguments ["Inject", "Attribute"] q.decorators).getLast? = some e →
    dep.token = some (cx.valueOf e file)
  token_of_type : (arguments ["Inject", "Attribute"] q.decorators).getLast? = none →
    ∀ v, dep.token = some v ↔ Names cx.program file q v

/-- A parameter of a file, given with its place among the others, has no token, for a reason. -/
structure Lacks (cx : Context) (file : String) (q : Parameter × ℕ) (m : Missing) : Prop where
  index : m.index = q.2
  name : m.name = q.1.name
  place : m.file = file
  range : m.range = q.1.range
  reason : cx.program.typeToken file q.1 = .error m.reason

variable {cx : Context} {id : DeclarationId} {file : String}

/-- A decorated dependency is what the parameter asks for, once the type has been looked at. -/
theorem asks_of_decorated {q : Parameter} {dep : Dependency} {t : Option Value}
    (h : Decorated cx file q.decorators { token := none, paramName := q.name } dep)
    (hargument : ∀ v, dep.token = some v → t = some v)
    (htype : dep.token = none → ∀ v, t = some v ↔ Names cx.program file q v) :
    Asks cx file q { dep with token := t } where
  name := h.name
  flags f hf := by
    rw [h.flags f hf]
    -- no flag is set before the decorators are read
    revert f
    simp [InjectFlags.named]
  attributeName := by
    rw [h.attributeName]
    cases (arguments ["Attribute"] q.decorators).getLast? <;> rfl
  token_of_argument e he := by
    apply hargument
    rw [h.token, he]
    rfl
  token_of_type hnone := by
    apply htype
    rw [h.token, hnone]
    rfl

theorem parameter_answer (q : Parameter) :
    Yields (parameter cx file q) fun r => Asks cx file q r.1 ∧
      ((∃ v, r.1.token = some v) ∧ r.2 = none ∨
        r.1.token = none ∧ ∃ reason, r.2 = some reason ∧ cx.program.typeToken file q = .error reason) := by
  refine .bind (foldlM_decorated q.decorators { token := none, paramName := q.name }) ?_
  intro dep hdep
  split
  · next v hv =>
    refine .pure ⟨?_, .inl ⟨⟨v, hv⟩, rfl⟩⟩
    exact asks_of_decorated hdep (fun _ h => h) fun hnone => by cases hnone.symm.trans hv
  · next hnone =>
    have hno : ∀ v, dep.token = some v → ∀ t : Option Value, t = some v := by
      intro v hv
      cases hnone.symm.trans hv
    split
    · next token htoken =>
      refine .pure ⟨asks_of_decorated hdep (fun v hv => hno v hv _) fun _ v => ?_, .inl ⟨⟨token, rfl⟩, rfl⟩⟩
      rw [← typeToken_eq_ok_iff, htoken]
      simp
    · next reason hreason =>
      refine .pure ⟨asks_of_decorated hdep (fun _ h => h) fun _ v => ?_, .inr ⟨hnone, reason, rfl, hreason⟩⟩
      rw [← typeToken_eq_ok_iff, hreason, hnone]
      simp

/-- The parameters, given with their places, whose dependencies have no token. -/
def withoutToken (qs : List (Parameter × ℕ)) (deps : List Dependency) : List (Parameter × ℕ) :=
  ((qs.zip deps).filter fun x => x.2.token.isNone).map (·.1)

theorem parametersFrom_answer (cx : Context) (file : String) (index : ℕ) (qs : List Parameter) :
    Yields (parametersFrom cx file index qs) fun r => List.Forall₂ (Asks cx file) qs r.1 ∧
      List.Forall₂ (Lacks cx file) (withoutToken (qs.zipIdx index) r.1) r.2 := by
  induction qs generalizing index with
  | nil => exact .pure ⟨.nil, .nil⟩
  | cons q qs ih =>
    refine .bind (parameter_answer q) ?_
    rintro ⟨dep, reason⟩ ⟨hasks, htoken⟩
    refine .bind (ih (index + 1)) ?_
    rintro ⟨deps, missing⟩ ⟨hdeps, hmissing⟩
    refine .pure ⟨.cons hasks hdeps, ?_⟩
    rw [List.zipIdx_cons]
    -- the first error is about the first parameter only if that one has no token
    rcases htoken with ⟨⟨v, hv⟩, rfl⟩ | ⟨hnone, r, rfl, hreason⟩
    · change dep.token = some v at hv
      have hskip : withoutToken ((q, index) :: qs.zipIdx (index + 1)) (dep :: deps) =
          withoutToken (qs.zipIdx (index + 1)) deps := by
        simp [withoutToken, hv]
      rw [hskip]
      exact hmissing
    · change dep.token = none at hnone
      have hfirst : withoutToken ((q, index) :: qs.zipIdx (index + 1)) (dep :: deps) =
          (q, index) :: withoutToken (qs.zipIdx (index + 1)) deps := by
        simp [withoutToken, hnone]
      rw [hfirst]
      exact .cons ⟨rfl, rfl, rfl, rfl, hreason⟩ hmissing

/-- There is one dependency for each parameter, and one error for each dependency without a token. -/
theorem parameters_answer (cx : Context) (file : String) (qs : List Parameter) :
    Yields (parameters cx file qs) fun r => List.Forall₂ (Asks cx file) qs r.1 ∧
      List.Forall₂ (Lacks cx file) (withoutToken qs.zipIdx r.1) r.2 :=
  parametersFrom_answer cx file 0 qs

/-! ### Classes -/

/-- What is said about the dependencies of a class: in strict contexts parameters without a token are
errors, and the dependencies are given up for them. -/
def verdict (cx : Context) (id : DeclarationId) (deps : List Dependency) (missing : List Missing) :
    Option (List Dependency) × List Diagnostic :=
  if missing = [] ∨ cx.strict = false then (some deps, [])
  else (none, missing.map (missingToken (cx.declaration id).name))

theorem dependencies_of_none (h : cx.program.constructor? id = none) :
    Yields (dependencies cx id) fun r => r = (some [], []) := by
  unfold dependencies
  rw [h]
  exact .pure rfl

/-- A class asks for what the parameters of its constructor ask for in the file of the owner. -/
theorem dependencies_of_some {c : Program.Constructor} (h : cx.program.constructor? id = some c) (desk : Desk) :
    (dependencies cx id desk).1 =
      verdict cx id (parameters cx (cx.declaration c.owner).file c.params desk).1.1
        (parameters cx (cx.declaration c.owner).file c.params desk).1.2 := by
  unfold dependencies
  rw [h]
  dsimp only
  rw [bind_apply]
  generalize parameters cx (cx.declaration c.owner).file c.params desk = answer
  obtain ⟨⟨deps, missing⟩, desk'⟩ := answer
  cases missing with
  | nil => rfl
  | cons m missing =>
    dsimp only
    rw [if_neg (by simp), verdict]
    cases hstrict : cx.strict <;> simp <;> rfl

/-- **The dependencies of a class are those of the nearest constructor.** The search for a constructor goes
from base to base and comes to an end, also where classes extend each other in a circle. It finds the
constructor of the first class that declares one, and nothing exactly if the classes end or come back to
one of them before. Without a constructor there are no dependencies. Otherwise there is one for each
parameter in order, read in the file of the class that declares the constructor, and one error for each
dependency without a token, with the place of its parameter. -/
theorem dependencies_inherited (cx : Context) (id : DeclarationId) :
    (∀ r, cx.program.Climb [] id r ↔ cx.program.constructor? id = r) ∧
    (∀ c, cx.program.constructor? id = some c ↔ cx.program.Nearest id c) ∧
    (cx.program.constructor? id = none ↔ cx.program.Constructorless id) ∧
    (cx.program.Constructorless id → ∀ desk, (dependencies cx id desk).1 = (some [], [])) ∧
    ∀ c, cx.program.Nearest id c → ∃ owner, cx.program.declaration? c.owner = some owner ∧
      ∀ desk, ∃ deps missing, (parameters cx owner.file c.params desk).1 = (deps, missing) ∧
        List.Forall₂ (Asks cx owner.file) c.params deps ∧
        List.Forall₂ (Lacks cx owner.file) (withoutToken c.params.zipIdx deps) missing ∧
        (dependencies cx id desk).1 = verdict cx id deps missing := by
  refine ⟨fun r => Program.climb_iff, fun c => Program.constructor?_eq_some_iff, Program.constructor?_eq_none_iff,
    fun hless => dependencies_of_none (Program.constructor?_eq_none_iff.2 hless), ?_⟩
  intro c hc
  obtain ⟨owner, howner⟩ : ∃ owner, cx.program.declaration? c.owner = some owner := by
    obtain ⟨-, -, hown, -⟩ := hc
    obtain ⟨body, hbody, -⟩ := Option.bind_eq_some_iff.1 hown
    obtain ⟨d, hd, -⟩ := Option.bind_eq_some_iff.1 hbody
    exact ⟨d, hd⟩
  have hfile : (cx.declaration c.owner).file = owner.file := by
    rw [Context.declaration, howner]
    rfl
  refine ⟨owner, howner, fun desk => ?_⟩
  obtain ⟨hdeps, hmissing⟩ := parameters_answer cx owner.file c.params desk
  have hverdict := dependencies_of_some (Program.constructor?_eq_some_iff.2 hc) desk
  rw [hfile] at hverdict
  exact ⟨_, _, rfl, hdeps, hmissing, hverdict⟩

/-- A class whose constructor is declared two classes above it, in another file that has a class `D` of
its own, and two classes that extend each other. -/
def family : Program :=
  ((Program.load (.ofList [
    ("/a.ts", "import * as m from './b'; class D \x7b\x7d class B extends m.A \x7b\x7d " ++
      "class C extends B \x7b\x7d class X extends Y \x7b\x7d class Y extends X \x7b\x7d"),
    ("/b.ts", "export class D \x7b\x7d export class A \x7b constructor(d: D, n: number) \x7b\x7d \x7d")])
    ["/a.ts"] {}).toOption).getD {}

/-- Name and file of the class that is the token of a dependency. -/
def tokenPlace? (dep : Dependency) : Option (String × String) :=
  (dep.token.bind (·.asReference?)).map fun r => (r.name, r.file)

/-- The first parameter asks for the class `D` beside the constructor; the second one has no token. -/
theorem dependencies_inherited_family :
    (∃ c, c.owner = 6 ∧ c.params.map (·.name) = [some "d", some "n"] ∧ family.Nearest 2 c ∧
      ∃ owner, family.declaration? c.owner = some owner ∧
        ∀ desk, ∃ deps missing,
          (parameters { program := family } owner.file c.params desk).1 = (deps, missing) ∧
          List.Forall₂ (Asks { program := family } owner.file) c.params deps ∧
          List.Forall₂ (Lacks { program := family } owner.file) (withoutToken c.params.zipIdx deps) missing ∧
          (dependencies { program := family } 2 desk).1 = verdict { program := family } 2 deps missing) ∧
    (dependencies { program := family } 2 { world := {} }).1.1.map (·.map tokenPlace?) =
      some [some ("D", "/b.ts"), none] ∧
    family.Constructorless 3 ∧ ∀ desk, (dependencies { program := family } 3 desk).1 = (some [], []) := by
  obtain ⟨-, hnearest, -, -, hinherit⟩ := dependencies_inherited { program := family } 2
  obtain ⟨-, -, hnone, hless, -⟩ := dependencies_inherited { program := family } 3
  dsimp only at hnearest hinherit hnone hless
  have hrun : ((family.constructor? 2).map (fun c => (c.owner, c.params.map (·.name))) =
      some (6, [some "d", some "n"]) ∧ (family.constructor? 3).isNone) ∧
      (dependencies { program := family } 2 { world := {} }).1.1.map (·.map tokenPlace?) =
        some [some ("D", "/b.ts"), none] := by
    decide +kernel
  obtain ⟨⟨hfound, hlost⟩, htokens⟩ := hrun
  obtain ⟨c, hc, hshape⟩ := Option.map_eq_some_iff.1 hfound
  obtain ⟨howner, hnames⟩ := Prod.mk.inj hshape
  have hcircle : family.Constructorless 3 := hnone.1 (Option.isNone_iff_eq_none.1 hlost)
  exact ⟨⟨c, howner, hnames, (hnearest c).1 hc, hinherit c ((hnearest c).1 hc)⟩, htokens, hcircle, hless hcircle⟩

end Work

end ComponentAtlas

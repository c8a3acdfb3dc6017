import ComponentAtlas.Script.Reading.Statements

/-!
# What is read of a function

Functions are read in several places: as expressions, as values of object members, as arrow functions,
as declarations and as methods of classes. What is kept of their parameters is the same everywhere.

* `Reads`, `Gives`: the results of a reader;
* `NamesKept`: the parameters of a function are kept as the names of the plainly named ones;
* `namesKept`: so it is for all functions.
-/

namespace ComponentAtlas.Script.Reading

/-! ### Results of readers -/

/-- A reader gives something at some place. -/
def Reads {α : Type} (x : Reader α) (a : α) : Prop := ∃ ctx c c', x ctx c = some (a, c')

/-- Everything that a reader gives satisfies a condition. -/
def Gives {α : Type} (x : Reader α) (Q : α → Prop) : Prop := ∀ a, Reads x a → Q a

section Gives

variable {α β : Type} {x : Reader α} {f : α → Reader β} {r r' : Reader β} {Q Q' : β → Prop}

theorem gives_pure {b : β} (h : Q b) : Gives (pure b) Q := by
  rintro _ ⟨ctx, c, c', ⟨⟩⟩
  exact h

theorem not_reads_failure {b : β} : ¬ Reads failure b := by
  rintro ⟨ctx, c, c', ⟨⟩⟩

theorem Gives.imp (h : Gives r Q) (himp : ∀ b, Q b → Q' b) : Gives r Q' := fun b hb => himp b (h b hb)

theorem gives_bind (h : ∀ a, Reads x a → Gives (f a) Q) : Gives (x >>= f) Q := by
  rintro b ⟨ctx, c, c', hb⟩
  obtain ⟨⟨a, c₁⟩, ha, hb⟩ := Option.bind_eq_some_iff.1 (show (x ctx c).bind _ = _ from hb)
  exact h a ⟨ctx, c, c₁, ha⟩ b ⟨ctx, c₁, c', hb⟩

theorem gives_ite {c : Prop} [Decidable c] (h : Gives r Q) (h' : Gives r' Q) :
    Gives (if c then r else r') Q := by
  split
  · exact h
  · exact h'

/-- Something is read first if a condition holds. -/
theorem gives_after {c : Prop} [Decidable c] (h : Gives r Q) :
    Gives (if c then x >>= fun _ => r else r) Q :=
  gives_ite (gives_bind fun _ _ => h) h

/-- Something is read first unless one of two conditions holds. -/
theorem gives_skip {γ : Type} {c : Prop} [Decidable c] {y : Reader γ} {d : γ → Prop} [∀ v, Decidable (d v)]
    (h : Gives r Q) : Gives (if c then r else y >>= fun v => if d v then x >>= fun _ => r else r) Q :=
  gives_ite h (gives_bind fun _ _ => gives_after h)

/-- A reader fails unless a condition holds. -/
theorem gives_unless {c : Prop} [Decidable c] {f : Unit → Reader β} (h : Gives r Q) :
    Gives (if c then r else failure >>= f) Q :=
  gives_ite h (gives_bind fun _ hfailure => (not_reads_failure hfailure).elim)

end Gives

/-! ### Functions -/

/-- The parameters of all functions are kept as the names of the plainly named ones, and of the body of
each function what it returns. -/
structure NamesKept (g : Grammar) : Prop where
  method {f : Method} (h : Reads (method g) f) : Reads (parameters g) f.params
  functionExpr {start : Nat} {e : Expr} (h : Reads (functionExpr g start) e) :
    ∃ f range, Reads (Reading.method g) f ∧ e = .node (.function (parameterNames f.params) f.returns) range
  methodValue {e : Expr} (h : Reads (methodValue g) e) :
    ∃ f range, Reads (Reading.method g) f ∧ e = .node (.function (parameterNames f.params) f.returns) range
  arrow {start : Nat} {e : Expr} (h : Reads (arrow g start) e) :
    ∃ ps body range, Reads (parameters g) ps ∧ e = .node (.function (parameterNames ps) body) range
  functionDeclaration {start : Nat} {exported : Bool} {name : Option String} {entries : List Entry}
    (h : Reads (functionDeclaration g start exported) (name, entries)) {d : Declaration}
    (hd : .declares d ∈ entries) :
    ∃ f, Reads (Reading.method g) f ∧ d.kind = .function (parameterNames f.params) f.returns
  classMember {start : Nat} {ds : List Decorator} {modifiers : List String} {m : ClassMember}
    (h : Reads (classMember g start ds modifiers) (.member m)) (hkind : m.kind = .method) :
    ∃ f, Reads (Reading.method g) f ∧ m.params = parameterNames f.params ∧ m.returns = f.returns

section Functions

variable (g : Grammar)

theorem method_gives : Gives (method g) fun f => Reads (parameters g) f.params := by
  unfold method
  refine gives_bind fun _ _ => gives_bind fun ps hps => gives_bind fun _ _ => gives_bind fun _ _ => ?_
  exact gives_ite (gives_bind fun _ _ => gives_pure hps) (gives_bind fun _ _ => gives_pure hps)

theorem nodeFrom_gives (start : Nat) (shape : Shape) :
    Gives (nodeFrom start shape) fun e => ∃ range, e = .node shape range :=
  gives_bind fun range _ => gives_pure ⟨range, rfl⟩

/-- The expression for a function with a body. -/
theorem function_gives {f : Method} (hf : Reads (method g) f) (start : Nat) :
    Gives (nodeFrom start (.function (parameterNames f.params) f.returns)) fun e =>
      ∃ f range, Reads (method g) f ∧ e = .node (.function (parameterNames f.params) f.returns) range :=
  (nodeFrom_gives start _).imp fun _ ⟨range, he⟩ => ⟨f, range, hf, he⟩

theorem functionExpr_gives (start : Nat) : Gives (functionExpr g start) fun e =>
    ∃ f range, Reads (method g) f ∧ e = .node (.function (parameterNames f.params) f.returns) range := by
  unfold functionExpr
  refine gives_bind fun _ _ => gives_bind fun _ _ => gives_bind fun _ _ => gives_after ?_
  exact gives_bind fun f hf => gives_unless (function_gives g hf start)

theorem methodValue_gives : Gives (methodValue g) fun e =>
    ∃ f range, Reads (method g) f ∧ e = .node (.function (parameterNames f.params) f.returns) range := by
  unfold methodValue
  exact gives_bind fun start _ => gives_bind fun f hf => gives_unless (function_gives g hf start)

theorem arrowHead_gives : Gives (arrowHead g) fun head =>
    ∃ ps, Reads (parameters g) ps ∧ head.1 = parameterNames ps := by
  unfold arrowHead
  refine gives_bind fun _ _ => gives_bind fun ps hps => gives_bind fun _ _ => gives_bind fun _ _ => ?_
  exact gives_ite (gives_bind fun _ hfailure => (not_reads_failure hfailure).elim)
    (gives_bind fun _ _ => gives_pure ⟨ps, hps, rfl⟩)

theorem arrowTail_gives (start : Nat) (params : List String) :
    Gives (arrowTail g start params) fun e => ∃ body range, e = .node (.function params body) range := by
  have hnode : ∀ body, Gives (nodeFrom start (.function params body)) fun e =>
      ∃ body range, e = .node (.function params body) range :=
    fun body => (nodeFrom_gives start _).imp fun _ ⟨range, he⟩ => ⟨body, range, he⟩
  unfold arrowTail
  exact gives_bind fun _ _ => gives_ite (gives_bind fun _ _ => hnode _) (gives_bind fun _ _ => hnode _)

theorem arrow_gives (start : Nat) : Gives (arrow g start) fun e =>
    ∃ ps body range, Reads (parameters g) ps ∧ e = .node (.function (parameterNames ps) body) range := by
  unfold arrow
  refine gives_bind fun (params, typed) hhead => gives_bind fun e he => ?_
  obtain ⟨ps, hps, hnames⟩ := arrowHead_gives g _ hhead
  obtain ⟨body, range, rfl⟩ := arrowTail_gives g start params e he
  rw [show params = parameterNames ps from hnames]
  refine gives_bind fun _ _ => gives_bind fun _ _ => ?_
  exact gives_ite (gives_bind fun _ hfailure => (not_reads_failure hfailure).elim)
    (gives_pure ⟨ps, body, range, hps, rfl⟩)

theorem functionDeclaration_gives (start : Nat) (exported : Bool) :
    Gives (functionDeclaration g start exported) fun read => ∀ d, .declares d ∈ read.2 →
      ∃ f, Reads (method g) f ∧ d.kind = .function (parameterNames f.params) f.returns := by
  unfold functionDeclaration
  refine gives_bind fun _ _ => gives_bind fun _ _ => gives_bind fun _ _ => gives_bind fun name _ =>
    gives_bind fun f hf => ?_
  split
  · exact gives_pure fun d hd => nomatch hd
  · refine gives_bind fun range _ => gives_pure fun d hd => ⟨f, hf, ?_⟩
    rcases List.mem_append.1 hd with hoffered | hdeclared
    · split at hoffered
      · cases List.mem_singleton.1 hoffered
      · cases hoffered
    · cases List.mem_singleton.1 hdeclared
      rfl

theorem classMember_gives (start : Nat) (ds : List Decorator) (modifiers : List String) :
    Gives (classMember g start ds modifiers) fun read => ∀ m, read = .member m → m.kind = .method →
      ∃ f, Reads (method g) f ∧ m.params = parameterNames f.params ∧ m.returns = f.returns := by
  unfold classMember
  refine gives_bind fun _ _ => gives_bind fun _ _ => gives_after (gives_bind fun key _ => gives_bind fun _ _ => ?_)
  refine gives_skip (gives_bind fun _ _ => gives_ite (gives_bind fun f hf => gives_ite ?_ ?_) ?_)
  · exact gives_pure fun m hm => nomatch hm
  · cases key.name? with
    | none => exact gives_pure fun m hm => nomatch hm
    | some name =>
      refine gives_bind fun _ _ => gives_pure ?_
      rintro m ⟨⟩ -
      exact ⟨f, hf, rfl, rfl⟩
  · refine gives_bind fun _ _ => gives_bind fun _ _ => gives_bind fun _ _ => gives_ite ?_ ?_
    · exact gives_pure fun m hm => nomatch hm
    · cases key.name? with
      | none => exact gives_pure fun m hm => nomatch hm
      | some name =>
        refine gives_bind fun _ _ => gives_pure ?_
        rintro m ⟨⟩ hkind
        cases hkind

theorem namesKept : NamesKept g where
  method h := method_gives g _ h
  functionExpr h := functionExpr_gives g _ _ h
  methodValue h := methodValue_gives g _ h
  arrow h := arrow_gives g _ _ h
  functionDeclaration h _ hd := functionDeclaration_gives g _ _ _ h _ hd
  classMember h hkind := classMember_gives g _ _ _ _ h _ rfl hkind

end Functions

end ComponentAtlas.Script.Reading

import ComponentAtlas.Program.Names

/-!
# Classes of a program

* `Program.base?`: the class that a class extends;
* `Program.constructor?`: the constructor that a class has or inherits.
-/

namespace ComponentAtlas.Program

open ComponentAtlas.Script

/-- The expression behind `extends`. -/
def baseExpr? (p : Program) (id : DeclarationId) : Option Expr := (p.cls? id).bind (·.heritage)

/-- The class that a class extends, when it is a class of the program. -/
def base? (p : Program) (id : DeclarationId) : Option DeclarationId := do
  let heritage ← p.baseExpr? id
  let d ← p.declaration? id
  match p.entity? heritage.render d.file with
  | some (.declaration base) => if (p.cls? base).isSome then some base else none
  | _ => none

/-- A constructor with the class that declares it. -/
structure Constructor where
  owner : DeclarationId
  params : List Parameter
  deriving Inhabited

/-- The constructor of a class or of the nearest class above it; `visited` holds the classes below. -/
def constructorFrom (p : Program) : Nat → List DeclarationId → DeclarationId → Option Constructor
  | 0, _, _ => none
  | fuel + 1, visited, id =>
    match p.cls? id with
    | none => none
    | some c =>
      match c.constructor? with
      | some params => some ⟨id, params⟩
      | none =>
        match p.base? id with
        | none => none
        | some base =>
          if base ∈ id :: visited then none else constructorFrom p fuel (id :: visited) base

/-- The constructor that a class has or inherits. -/
def constructor? (p : Program) (id : DeclarationId) : Option Constructor :=
  p.constructorFrom (p.declarations.length + 1) [] id

end ComponentAtlas.Program

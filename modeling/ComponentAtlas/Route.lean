import ComponentAtlas.Evaluation.Value
import ComponentAtlas.Text.Chars

/-!
# Routes

A module hands its routes to the router in a call among its imports. A route may load another module
when it is first visited.

* `routerCalls`: the calls of the router in a list of imports;
* `RouteItem.ofValue`: the routes of a value, nested ones included;
* `LoadTarget.ofValue?`: what a route loads.
-/

namespace ComponentAtlas

open ComponentAtlas.Script

/-! ### Calls of the router -/

/-- The functions that take routes. -/
def routerFunctions : List String := ["RouterModule.forRoot", "RouterModule.forChild"]

/-- The package of the router. -/
def routerPackage : String := "@angular/router"

/-- The call of the router that made a value dynamic. When the declarations of the router are part of
the program the call itself is the cause; otherwise it stands right above a name of the router. -/
def Dynamic.routerCall? : Dynamic → Option Dynamic
  | .mk node file (.declaredCall name declared) =>
    if name ∈ routerFunctions ∧ Text.contains declared routerPackage then
      some (.mk node file (.declaredCall name declared))
    else none
  | .mk node file (.input (.mk inner innerFile (.external module name))) =>
    if name ∈ routerFunctions then
      some (.mk node file (.input (.mk inner innerFile (.external module name))))
    else none
  | .mk _ _ (.input inner) => inner.routerCall?
  | _ => none

/-- The first argument of a call, unless it is spread. -/
def Script.Expr.firstArgument? (e : Expr) : Option Expr :=
  match e.shape with
  | .call _ (.item argument :: _) => some argument
  | _ => none

mutual

/-- The first arguments of all calls of the router in a list, with their files. -/
def routerCalls : Value → List (Expr × String)
  | .array items => routerCallsIn items
  | .dynamic d =>
    ((d.routerCall?).bind fun call => (call.node.firstArgument?).map (·, call.file)).toList
  | _ => []

/-- The first arguments of all calls of the router in several values. -/
def routerCallsIn : List Value → List (Expr × String)
  | [] => []
  | v :: vs => routerCalls v ++ routerCallsIn vs

end

/-! ### Routes of a value -/

/-- An entry of a list of routes. -/
inductive RouteItem
  /-- A route that loads something. -/
  | load (path : String) (target : Value)
  /-- A value that is no route. -/
  | ignored (typeName : String)
  deriving Inhabited

/-- The route that an object stands for, if it loads something. -/
def RouteItem.own (entries : List (String × Value)) : List RouteItem :=
  let path := ((Table.get? "path" entries).bind Value.asString?).getD ""
  ((Table.get? "loadChildren" entries).map (RouteItem.load path)).toList

mutual

/-- The routes of a value; a route stands before the routes below it. -/
def RouteItem.ofValue : Value → List RouteItem
  | .array items => RouteItem.ofValues items
  | .map entries => RouteItem.own entries ++ RouteItem.below entries
  | v => [.ignored v.typeName]

/-- The routes of several values. -/
def RouteItem.ofValues : List Value → List RouteItem
  | [] => []
  | v :: vs => RouteItem.ofValue v ++ RouteItem.ofValues vs

/-- The routes below an object: those of its first entry for children. -/
def RouteItem.below : List (String × Value) → List RouteItem
  | [] => []
  | (key, v) :: rest => if key = "children" then RouteItem.ofValue v else RouteItem.below rest

end

/-! ### What a route loads -/

/-- An exported name of a module, as written in a file. -/
structure LoadTarget where
  specifier : String
  name : String
  file : String
  deriving DecidableEq, Repr, Inhabited

namespace LoadTarget

/-- The target of a text such as `./path/to/module#Name`. -/
def ofText? (text file : String) : Option LoadTarget := do
  let (specifier, name) ← Text.splitOnce '#' text.toList
  if specifier.isEmpty || name.isEmpty then none
  else some ⟨String.ofList specifier, String.ofList name, file⟩

/-- The target of a function such as `() => import('./path').then(m => m.Name)`. -/
def ofFunction? (e : Expr) (file : String) : Option LoadTarget :=
  match e.shape with
  | .function _ (some (.node (.call (.node (.property (.node (.dynamicImport source) _) "then") _)
      [.item (.node (.function [param] (some (.node (.property object name) _))) _)]) _)) =>
    match source.asString?, object.asIdent? with
    | some specifier, some receiver => if param = receiver then some ⟨specifier, name, file⟩ else none
    | _, _ => none
  | _ => none

/-- What a route loads, for a route of a file. -/
def ofValue? (file : String) : Value → Option LoadTarget
  | .string text => ofText? text file
  | .dynamic (.mk node own .functionValue) => ofFunction? node own
  | _ => none

end LoadTarget

end ComponentAtlas

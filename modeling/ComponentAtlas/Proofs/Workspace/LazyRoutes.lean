import ComponentAtlas.Proofs.Evaluation.Dependence
import ComponentAtlas.Proofs.Workspace.RouteSearch
import ComponentAtlas.Proofs.Workspace.Serving

/-!
# The search for modules that routes load

What the routes of a module load depends on the program alone, so in a workspace for a program the
search is the search over a map that is known beforehand.

* `Context.routeMap`: what the routes of each module load;
* `Workspace.Finds`: a step of the search does in a workspace what it does on the map;
* `Workspace.discover_finds`: so does the whole search;
* `Workspace.lazyRoutes_depthFirst`: the search comes to an end; it fails exactly if there is a circle,
  and else lists all modules in reach in depth-first order.
-/

namespace ComponentAtlas

open ComponentAtlas.Script

/-! ### What routes load -/

namespace Program

variable {p : Program}

/-- A program that was loaded from somewhere. -/
def Loaded (p : Program) : Prop := ∃ host roots settings, load host roots settings = .ok p

theorem Loaded.numbered (h : p.Loaded) : p.Numbered := by
  obtain ⟨host, roots, settings, hload⟩ := h
  exact load_numbered hload

theorem accord_self (p : Program) : Accord p p fun _ => True where
  module?_eq _ _ := rfl
  exportBound_eq := rfl
  sameFile _ := ⟨rfl, fun _ _ => rfl⟩
  closed _ _ _ _ := trivial

/-- An exported declaration is a declaration of the program. -/
theorem Loaded.lt_of_export? (h : p.Loaded) {file name : String} {id : DeclarationId}
    (hid : p.export? file name = some (.declaration id)) : id < p.declarations.length := by
  obtain ⟨host, roots, settings, hload⟩ := h
  obtain ⟨path, -, hmem⟩ := p.accord_self.export?_within trivial hid
  obtain ⟨d, hd, -⟩ := (closure_of_load hload).declaration_of_mem hmem
  exact (List.getElem?_eq_some_iff.1 hd).1

/-- The module that a route of a file loads, with the path of the route. -/
def routeLoads? (p : Program) (file : String) : RouteItem → Option (String × DeclarationId)
  | .load path target =>
    match Workspace.loaded? p file path target with
    | .ok r => some (path, r.id)
    | .error _ => none
  | .ignored _ => none

theorem loaded?_eq_ok {file path : String} {target : Value} {r : Reference}
    (h : Workspace.loaded? p file path target = .ok r) :
    ∃ found name id, p.export? found name = some (.declaration id) ∧ r = p.reference id := by
  unfold Workspace.loaded? at h
  split at h
  · cases h
  · split at h
    · cases h
    · split at h
      · next hid =>
        cases h
        exact ⟨_, _, _, hid, rfl⟩
      · cases h

theorem Loaded.lt_of_routeLoads? (h : p.Loaded) {file : String} {item : RouteItem}
    {e : String × DeclarationId} (he : p.routeLoads? file item = some e) : e.2 < p.declarations.length := by
  unfold routeLoads? at he
  split at he
  · split at he
    · next hr =>
      cases he
      obtain ⟨found, name, id, hid, rfl⟩ := loaded?_eq_ok hr
      rw [h.numbered.reference_id]
      exact h.lt_of_export? hid
    · cases he
  · cases he

end Program

namespace Context

variable (cx : Context)

/-- The imports of a module; `none` for a class that is no module or has errors. -/
def importsOf? (id : DeclarationId) : Option SourceExpr :=
  match cx.reply (.analysis id) with
  | .ok (.analysis (some (.ngModule m))) => m.importsSource
  | _ => none

/-- The modules that the routes of some calls of the router load, with the paths of the routes. -/
def callsLoad (calls : List (Expr × String)) : List (String × DeclarationId) :=
  calls.flatMap fun (argument, file) =>
    (RouteItem.ofValue (cx.valueOf argument file)).filterMap (cx.program.routeLoads? file)

/-- The modules that the routes of a module load, with the paths of the routes. -/
def moduleLoads (id : DeclarationId) : List (String × DeclarationId) :=
  match cx.importsOf? id with
  | none => []
  | some imports => cx.callsLoad (routerCalls (cx.valueOf imports.node imports.file))

/-- What the routes of each module of a program load. -/
def routeMap (hp : cx.program.Loaded) : RouteMap where
  reference := cx.program.reference
  reference_id := hp.numbered.reference_id
  targets := cx.moduleLoads
  ids := List.range cx.program.declarations.length
  mem_ids {id e} he := by
    rw [List.mem_range]
    unfold moduleLoads at he
    split at he
    · cases he
    · obtain ⟨call, -, he⟩ := List.mem_flatMap.1 he
      obtain ⟨item, -, hitem⟩ := List.mem_filterMap.1 he
      exact hp.lt_of_routeLoads? hitem

end Context

namespace Workspace

variable {cx : Context} {w : Workspace} {β : Type}

theorem Serves.loaded (h : Serves cx w) : cx.program.Loaded := by
  obtain ⟨roots, -, hload⟩ := h.loads
  exact ⟨_, _, _, hload⟩

/-! ### Steps of the search -/

/-- A step of the search leads, in every workspace that has loaded the program, from one state of the
search to what is given. -/
def Finds (cx : Context) (x : Discovering Unit) (d : Discovery) (r : Except Failure Discovery) : Prop :=
  Answers (Open cx) (fun err => r = .error err) (fun s => r = .ok s.2) (x.run d)

section Finds

variable {x : Discovering Unit} {d : Discovery} {r : Except Failure Discovery}

theorem finds_pure (d : Discovery) : Finds cx (pure ()) d (.ok d) := answers_pure rfl

theorem finds_throw (d : Discovery) (err : Failure) : Finds cx (throw err) d (.error err) := answers_throw rfl

theorem Finds.bind {k : Unit → Discovering Unit} {g : Discovery → Except Failure Discovery}
    (hx : Finds cx x d r) (hk : ∀ d', Finds cx (k ()) d' (g d')) : Finds cx (x >>= k) d (r >>= g) := by
  unfold Finds
  rw [StateT.run_bind]
  refine Answers.bind (hx.mono ?_ fun _ hs => hs) ?_
  · rintro err rfl
    rfl
  · rintro ⟨⟨⟩, d'⟩ rfl
    exact hk d'

/-- A step that asks the workspace. -/
theorem Finds.ask {y : Asking β} {Q : β → Prop} {k : β → Discovering Unit}
    (hy : Answers (Open cx) (fun _ => False) Q y) (hk : ∀ b, Q b → Finds cx (k b) d r) :
    Finds cx (liftM y >>= k) d r := by
  unfold Finds
  rw [StateT.run_bind, StateT.run_monadLift, bind_assoc]
  refine Answers.bind (hy.mono (fun err herr => herr.elim) fun b hb => hb) fun b hb => ?_
  rw [pure_bind]
  exact hk b hb

theorem Finds.get {k : Discovery → Discovering Unit} (hk : Finds cx (k d) d r) : Finds cx (get >>= k) d r :=
  hk

theorem Finds.modify {f : Discovery → Discovery} {k : Unit → Discovering Unit}
    (hk : Finds cx (k ()) (f d) r) : Finds cx (modify f >>= k) d r := hk

theorem finds_tell (level : Level) (message : String) (d : Discovery) :
    Finds cx (Workspace.tell level message) d (.ok d) :=
  Finds.ask (answers_note (steady_open cx) level message) fun _ _ => finds_pure d

theorem Finds.tell {k : Unit → Discovering Unit} (level : Level) (message : String)
    (hk : Finds cx (k ()) d r) : Finds cx (Workspace.tell level message >>= k) d r :=
  Finds.ask (answers_note (steady_open cx) level message) fun _ _ => hk

end Finds

/-- Expressions are evaluated in the program of the workspace. -/
theorem answers_evaluate (e : Expr) (file : String) :
    Answers (Open cx) (fun _ => False) (fun v => v = cx.valueOf e file) (evaluate e file) := by
  intro w hw
  have hcontext : w.context = cx := hw.serves.context_eq hw.built
  unfold evaluate work
  refine .get_bind ?_
  rw [hcontext]
  exact ⟨⟨hw.serves.world _ _ _, hw.built⟩, rfl⟩

theorem answers_importsOf? (hp : cx.program.Numbered) (id : DeclarationId) :
    Answers (Open cx) (fun _ => False) (fun imports => imports = cx.importsOf? id) (importsOf? id) := by
  refine Answers.tryCatch (E := fun err => cx.reply (.analysis id) = .error err) ?_ fun err herr => ?_
  · refine Answers.bind (answers_analysis? (steady_open cx) id) fun a ha => ?_
    rw [Context.importsOf?, ha]
    cases a with
    | none => exact answers_pure rfl
    | some a => cases a <;> exact answers_pure rfl
  · obtain ⟨a, ha⟩ | ⟨name, ds, hreply⟩ := cx.reply_analysis hp id
    · rw [herr] at ha
      cases ha
    · rw [herr] at hreply
      cases hreply
      refine Answers.bind (answers_note (steady_open cx) _ _) fun _ _ => answers_pure ?_
      rw [Context.importsOf?, herr]

section Step

variable (hp : cx.program.Loaded) {enter : Reference → Discovering Unit}
  {enter' : DeclarationId → Discovery → Except Failure Discovery}
  (henter : ∀ t d, Finds cx (enter (cx.program.reference t)) d (enter' t d))

include henter

theorem followTo_finds (path : String) (t : DeclarationId) (d : Discovery) :
    Finds cx (followTo enter path (cx.program.reference t)) d
      ((cx.routeMap hp).follow enter' d (path, t)) := by
  have hid : (cx.program.reference t).id = t := hp.numbered.reference_id t
  unfold followTo RouteMap.follow
  refine .get ?_
  rw [hid]
  cases d.stack.findIdx? fun r => r.id == t with
  | some place => exact finds_throw _ _
  | none =>
    dsimp only
    split
    · next hseen =>
      rw [if_pos (show ((cx.routeMap hp).reference t).file ∈ d.seen from hseen)]
      exact finds_tell _ _ d
    · next hseen =>
      rw [if_neg (show ((cx.routeMap hp).reference t).file ∉ d.seen from hseen)]
      exact .tell _ _ (.modify (henter t _))

theorem followAll_finds (file : String) (items : List RouteItem) (d : Discovery) :
    Finds cx (followAll enter file items) d
      ((items.filterMap (cx.program.routeLoads? file)).foldlM ((cx.routeMap hp).follow enter') d) := by
  induction items generalizing d with
  | nil => exact finds_pure d
  | cons item items ih =>
    cases item with
    | ignored typeName => exact .tell _ _ (ih d)
    | load path target =>
      unfold followAll
      refine .ask answers_get fun w hw => ?_
      rw [hw.serves.program_eq hw.built]
      cases hr : loaded? cx.program file path target with
      | error message =>
        rw [List.filterMap_cons_none (by rw [Program.routeLoads?, hr])]
        exact .tell _ _ (ih d)
      | ok r =>
        obtain ⟨found, name, id, -, rfl⟩ := Program.loaded?_eq_ok hr
        have hroute : cx.program.routeLoads? file (.load path target) = some (path, id) := by
          rw [Program.routeLoads?, hr]
          exact congrArg (fun k => some (path, k)) (hp.numbered.reference_id id)
        rw [List.filterMap_cons_some hroute, List.foldlM_cons]
        exact (followTo_finds hp henter path id d).bind fun d' => ih d'

theorem followCalls_finds (calls : List (Expr × String)) (d : Discovery) :
    Finds cx (followCalls enter calls) d
      ((cx.callsLoad calls).foldlM ((cx.routeMap hp).follow enter') d) := by
  induction calls generalizing d with
  | nil => exact finds_pure d
  | cons call calls ih =>
    obtain ⟨argument, file⟩ := call
    unfold followCalls
    refine .ask (answers_evaluate argument file) ?_
    rintro _ rfl
    rw [Context.callsLoad, List.flatMap_cons, List.foldlM_append]
    exact (followAll_finds hp henter file _ d).bind fun d' => ih d'

theorem followModule_finds (id : DeclarationId) (d : Discovery) :
    Finds cx (followModule enter id) d
      (((cx.routeMap hp).targets id).foldlM ((cx.routeMap hp).follow enter') d) := by
  unfold followModule
  refine .ask (answers_importsOf? hp.numbered id) ?_
  rintro _ rfl
  show Finds cx _ d ((cx.moduleLoads id).foldlM ((cx.routeMap hp).follow enter') d)
  unfold Context.moduleLoads
  cases cx.importsOf? id with
  | none => exact finds_pure d
  | some imports =>
    refine .ask (answers_evaluate imports.node imports.file) ?_
    rintro _ rfl
    exact followCalls_finds hp henter _ d

end Step

/-- In a workspace for a program the search is the search over what is known beforehand. -/
theorem discover_finds (hp : cx.program.Loaded) (depth : ℕ) (id : DeclarationId) (d : Discovery) :
    Finds cx (discover depth (cx.program.reference id)) d ((cx.routeMap hp).explore depth id d) := by
  induction depth generalizing id d with
  | zero => exact finds_pure d
  | succ depth ih =>
    have hid : (cx.program.reference id).id = id := hp.numbered.reference_id id
    unfold discover RouteMap.explore
    rw [hid]
    refine .modify ((followModule_finds hp ih id _).bind fun d' => ?_)
    exact finds_pure _

/-! ### The search as a whole -/

/-- After the program was loaded, more is known about the workspace. -/
theorem theProgram_bind_leads {k : Program → Asking β} {E : Failure → Prop} {Q : β → Prop}
    (h : Serves cx w) (hk : Answers (Open cx) E Q (k cx.program)) :
    Leads (theProgram >>= k) w fun r t => Serves cx t ∧ Fits E Q r := by
  unfold theProgram
  rw [bind_assoc]
  refine (require_leads h .program).bind_ok (fun _ _ h => h.ok) ?_
  rintro t ⟨-, ht, -, hbuilt⟩
  refine .get_bind ?_
  rw [ht.program_eq hbuilt]
  refine (hk t ⟨ht, hbuilt⟩).mono ?_
  rintro r u ⟨hu, hr⟩
  exact ⟨hu.serves, hr⟩

end Workspace

end ComponentAtlas

import ComponentAtlas.Proofs.Roles.QueryOrder

/-!
# Classes in worlds with any scopes

Scopes can be looked at in any world, also when some classes are not known yet, and they are kept. No
matter: neither the analysis of a class nor its errors depend on scopes.

* `World.Informed`: a world that knows the classes that were analysed, with any scopes;
* `Context.plainContract`: what the five handlers promise in such worlds.
-/

namespace ComponentAtlas

open ComponentAtlas.Script

namespace World

variable {cx : Context} {done : DeclarationId → Prop} {w : World}

/-- A world that knows the classes that are done. -/
structure Informed (cx : Context) (done : DeclarationId → Prop) (w : World) : Prop where
  loader : w.loader.Faithful cx.resources
  registry : w.registry.Knows cx done

theorem informed_new (cx : Context) (graph : FileGraph) :
    Informed cx (fun _ => False) { loader := { graph } } :=
  ⟨(before_new cx graph).loader, (before_new cx graph).registry⟩

/-- Without its scopes the world is one before the second phase. -/
theorem Informed.before (h : w.Informed cx done) : Before cx done { w with scopes := {} } :=
  ⟨h.loader, h.registry, rfl⟩

/-- Without its scopes a world that knows all classes is one after the first phase. -/
theorem Informed.after (h : w.Informed cx fun _ => True) : After cx { w with scopes := {} } :=
  ⟨h.loader, h.registry, Scoping.full_new _⟩

end World

namespace Context

variable {cx : Context} {id : DeclarationId} {d : Declaration}
  {c : Engine.Claim World Analysis Resolution} {a : Analysis} {done : DeclarationId → Prop} {w : World}

theorem analyze_informed (hc : cx.engine.claimed? id = some (d, c)) (hid : ¬ done id)
    (hw : w.Informed cx done) :
    (c.handler.analyze id c.detected).Yields w fun f w' => f = cx.findings id ∧ w'.Informed cx done := by
  obtain ⟨hloader, hdirective, hpipe, hmodule⟩ := hw.before.ready hid
  have hnew : Desk.Alike cx id { world := w } { world := {} } :=
    ⟨rfl, ⟨hloader, hdirective, hpipe, hmodule⟩, (World.before_new cx {}).ready not_false⟩
  obtain ⟨hresult, -, halike, hregistry, -⟩ := analyze_local c.detected.role c.detected _ _ hnew
  rw [claim?_handler (Engine.claim?_of_claimed? hc), handler_analyze]
  refine Work.routine_yields ⟨?_, halike.left.loader, ?_⟩
  · rw [findings, hc]
    exact hresult
  · rw [hregistry]
    exact hw.registry

theorem register_informed (hp : cx.program.Numbered) (hc : cx.engine.claimed? id = some (d, c))
    (ha : cx.found? id = some a) (hw : w.Informed cx done) :
    (c.handler.register id a).Yields w fun _ w' => w'.Informed cx fun k => done k ∨ k = id := by
  obtain ⟨hrole, hreference⟩ := found?_concerns hc ha
  rw [claim?_handler (Engine.claim?_of_claimed? hc), ← hrole, handler_register]
  refine Work.routine_yields ⟨hw.loader, hw.registry.learn ha ?_⟩
  rw [hreference, hp.reference_id]

/-- What the second phase may yield for a class: its problems, and any scope. -/
def Judges (cx : Context) (id : DeclarationId) (a : Analysis) (t : Settlement Resolution) : Prop :=
  ∃ w : World, w.After cx ∧ t.diagnostics = cx.problems w id a

theorem judges_of_informed {t : Settlement Resolution} (hw : w.Informed cx fun _ => True)
    (ht : t.diagnostics = cx.problems w id a) : cx.Judges id a t := by
  refine ⟨_, hw.after, ht.trans ?_⟩
  cases a <;> rfl

theorem resolve_informed (hc : cx.engine.claimed? id = some (d, c)) (ha : cx.found? id = some a)
    (hw : w.Informed cx fun _ => True) :
    (c.handler.resolve id a).Yields w fun t w' => cx.Judges id a t ∧ w'.Informed cx fun _ => True := by
  rw [claim?_handler (Engine.claim?_of_claimed? hc), ← (found?_concerns hc ha).1]
  cases a with
  | ngModule m =>
    obtain ⟨hresult, hworld⟩ := resolveModule_eq cx id m w
    refine Work.routine_yields (x := Work.resolveModule cx id m) ?_
    rw [hresult, hworld]
    exact ⟨judges_of_informed hw rfl, hw.loader, hw.registry⟩
  | component c =>
    obtain ⟨hresult, hworld⟩ := resolveComponent_eq cx id c w
    refine Work.routine_yields (x := Work.resolveComponent cx id c) ?_
    rw [hresult, hworld]
    exact ⟨judges_of_informed hw rfl, hw.loader, hw.registry⟩
  | directive d => exact ⟨judges_of_informed hw rfl, hw⟩
  | pipe p => exact ⟨judges_of_informed hw rfl, hw⟩
  | injectable i => exact ⟨judges_of_informed hw rfl, hw⟩

/-- The five handlers keep a contract that says nothing about scopes. -/
def plainContract (cx : Context) (hp : cx.program.Numbered) : cx.engine.Contract where
  findings := cx.findings
  Settles := cx.Judges
  Before := World.Informed cx
  After := World.Informed cx fun _ => True
  analyze := analyze_informed
  register := register_informed hp
  pass ha hw := ⟨hw.loader, hw.registry.pass ha⟩
  close hall hw := by
    refine ⟨hw.loader, hw.registry.close fun k hk => ?_⟩
    obtain ⟨a, ha⟩ := Option.isSome_iff_exists.1 hk
    exact hall k (Engine.claimed?_of_found? ha)
  resolve := resolve_informed
  diagnostics_eq := by
    rintro id a t t' ⟨w, hw, hds⟩ ⟨w', hw', hds'⟩
    rw [hds, hds', problems_eq hw hw']

end Context

end ComponentAtlas

import ComponentAtlas.Proofs.Analysis.Reentrancy

/-!
# Handlers that do not ask the engine

Such handlers share nothing but the world. A contract says which worlds they need, what they make of
them, and what they yield there. Both phases of a class are then known up to the world.

* `Program.Numbered`: the place of a declaration is its number; `Program.load_numbered`;
* `Routine.Yields`: what a routine that asks nothing ends with;
* `Contract`: what the handlers promise;
* `Contract.first`, `Contract.Last`: how far a class comes in both phases;
* `analyzeClaimed_puts`, `resolveNow_puts`: the phases lead so far, and change nothing else.
-/

namespace ComponentAtlas

open ComponentAtlas.Script

/-! ### Numbers of declarations -/

namespace Program

variable {p : Program}

/-- The place of a declaration in a program is its number. -/
def Numbered (p : Program) : Prop := ∀ id d, p.declaration? id = some d → d.id = id

theorem Numbered.add (h : p.Numbered) (path : String) (c : Contents) : (p.add path c).Numbered := by
  intro id d hd
  simp only [Program.add, declaration?] at hd
  rcases lt_or_ge id p.declarations.length with hlt | hge
  · rw [List.getElem?_append_left hlt] at hd
    exact h id d hd
  · rw [List.getElem?_append_right hge, List.getElem?_mapIdx] at hd
    obtain ⟨d', -, rfl⟩ := Option.map_eq_some_iff.1 hd
    exact Nat.add_sub_cancel' hge

theorem Numbered.addAll (h : p.Numbered) (read : List (String × Contents)) :
    (read.foldl (fun p (path, c) => p.add path c) p).Numbered := by
  induction read generalizing p with
  | nil => exact h
  | cons e read ih => exact ih (h.add e.1 e.2)

theorem Numbered.loadWaves (host : Host) (fuel : ℕ) (h : p.Numbered) (seen : List String)
    (wave : List (String × String)) : (loadWaves host fuel p seen wave).Numbered := by
  induction fuel generalizing p seen wave with
  | zero => exact h
  | succ fuel ih =>
    rw [Program.loadWaves]
    split
    · exact h
    · exact ih (h.addAll _) _ _

theorem load_numbered {host : Host} {roots : List String} {settings : Settings}
    (h : load host roots settings = .ok p) : p.Numbered := by
  simp only [load] at h
  split at h
  · cases h
  · split at h
    · cases h
    · cases h
      exact Numbered.loadWaves host _ (fun _ _ hd => by cases hd) _ _

/-- The program of some roots, if they load. -/
theorem load_getD {host : Host} {roots : List String} {settings : Settings}
    (h : (load host roots settings).toOption.isSome) :
    load host roots settings = .ok ((load host roots settings).toOption.getD {}) := by
  cases hload : load host roots settings with
  | error err =>
    rw [hload] at h
    cases h
  | ok p => rfl

end Program

/-! ### Routines that ask nothing -/

/-- What a routine ends with in a world when it neither asks the engine nor looks at it: its result and
the world then satisfy a condition. -/
def Routine.Yields {σ α ρ β : Type} : Routine σ α ρ β → σ → (β → σ → Prop) → Prop
  | .done b, w, Q => Q b w
  | .read next, w, Q => (next w).Yields w Q
  | .write w next, _, Q => next.Yields w Q
  | .log _ _ next, w, Q => next.Yields w Q
  | .look _, _, _ | .query _ _, _, _ => False

/-! ### Progress as far as the phases tell -/

section Progress

variable {α ρ : Type}

/-- The progress of a class with errors. -/
def Progress.errored (ds : List Diagnostic) : Progress α ρ := { stage := .errored, diagnostics? := some ds }

/-- The analysis that is registered after the first phase. -/
def Findings.result? (f : Findings α) : Option α := if f.isFaulty then none else f.analysis

/-- How far a class comes in the first phase. -/
def Findings.progress (f : Findings α) : Progress α ρ :=
  if f.isFaulty then .errored f.diagnostics
  else
    match f.analysis with
    | some a => { stage := .analyzed, analysis? := some a }
    | none => { stage := .skipped }

/-- How far a class comes in the second phase. -/
def Settlement.progress (t : Settlement ρ) (a : α) : Progress α ρ :=
  if t.isFaulty then .errored t.diagnostics
  else { stage := .resolved, analysis? := some a, resolution? := t.resolution }

end Progress

namespace Engine

variable {σ α ρ β : Type} {e : Engine σ α ρ}
  {ask : Query → State σ α ρ → Except Failure (Answer α ρ) × State σ α ρ}

variable (ask) in
theorem perform_yields {r : Routine σ α ρ β} {s : State σ α ρ} {Q : β → σ → Prop}
    (h : r.Yields s.world Q) :
    ∃ w log, Q (perform ask r s).1 w ∧ (perform ask r s).2 = { s with world := w, log } := by
  induction r generalizing s with
  | done b => exact ⟨s.world, s.log, h, rfl⟩
  | read next ih => exact ih s.world h
  | write world next ih => exact ih (s := { s with world }) h
  | log level message next ih => exact ih (s := s.note level message) h
  | look next | query q next => exact h.elim

/-! ### What handlers promise -/

/-- The class with a number, if a handler recognises it, and the claim on it. -/
def claimed? (e : Engine σ α ρ) (id : DeclarationId) : Option (Declaration × Claim σ α ρ) :=
  match (e.program.declaration? id).filter (·.isClass), e.claim? id with
  | some d, some c => some (d, c)
  | _, _ => none

theorem analyzeNew_eq (id : DeclarationId) : analyzeNew e ask id =
    match e.claimed? id with
    | some (d, c) => analyzeClaimed ask id d c
    | none => update fun s => { s with plain := s.plain ++ [id] } := by
  rw [analyzeNew, claimed?]
  cases (e.program.declaration? id).filter (·.isClass) with
  | none => rfl
  | some d => cases e.claim? id <;> rfl

/-- The analysis of a class that is registered, given what the first phase yields for every class. -/
def found? (e : Engine σ α ρ) (findings : DeclarationId → Findings α) (id : DeclarationId) : Option α :=
  match e.claimed? id with
  | some (_, c) => if c.collisions.isEmpty then (findings id).result? else none
  | none => none

theorem claimed?_of_found? {findings : DeclarationId → Findings α} {id : DeclarationId} {a : α}
    (h : e.found? findings id = some a) : (e.claimed? id).isSome := by
  unfold found? at h
  split at h
  · next hc => rw [hc]; rfl
  · cases h

theorem analysis_of_found? {findings : DeclarationId → Findings α} {id : DeclarationId} {a : α}
    (h : e.found? findings id = some a) : (findings id).analysis = some a := by
  unfold found? Findings.result? at h
  split at h
  · split at h
    · split at h
      · cases h
      · exact h
    · cases h
  · cases h

/-- What the handlers of an engine promise. Before the second phase the world knows the classes that
were analysed, and afterwards all classes. The first phase of a class may depend on neither, and in
the second phase the diagnostics are the same in all worlds that know all classes. -/
structure Contract (e : Engine σ α ρ) where
  /-- What the first phase yields for a class. -/
  findings : DeclarationId → Findings α
  /-- What the second phase may yield for a class with an analysis. -/
  Settles : DeclarationId → α → Settlement ρ → Prop
  /-- Worlds before the second phase, which know the classes that were analysed. -/
  Before : (DeclarationId → Prop) → σ → Prop
  /-- Worlds that know all classes. -/
  After : σ → Prop
  analyze : ∀ {id d c done w}, e.claimed? id = some (d, c) → ¬ done id → Before done w →
    (c.handler.analyze id c.detected).Yields w fun f w' => f = findings id ∧ Before done w'
  register : ∀ {id d c a done w}, e.claimed? id = some (d, c) → e.found? findings id = some a →
    Before done w → (c.handler.register id a).Yields w fun _ w' => Before (fun k => done k ∨ k = id) w'
  pass : ∀ {id done w}, e.found? findings id = none → Before done w →
    Before (fun k => done k ∨ k = id) w
  close : ∀ {done w}, (∀ id, (e.claimed? id).isSome → done id) → Before done w → After w
  resolve : ∀ {id d c a w}, e.claimed? id = some (d, c) → e.found? findings id = some a → After w →
    (c.handler.resolve id a).Yields w fun t w' => Settles id a t ∧ After w'
  diagnostics_eq : ∀ {id a t t'}, Settles id a t → Settles id a t' → t.diagnostics = t'.diagnostics

namespace Contract

variable (K : Contract e) {id : DeclarationId} {d : Declaration} {c : Claim σ α ρ} {a : α}

/-- How far a class comes in the first phase. -/
def first (id : DeclarationId) (d : Declaration) (c : Claim σ α ρ) : Progress α ρ :=
  if c.collisions.isEmpty then (K.findings id).progress
  else .errored [collision d c.detected c.collisions]

/-- How far a class comes in the end. -/
inductive Last (id : DeclarationId) (d : Declaration) (c : Claim σ α ρ) : Progress α ρ → Prop
  | first (h : e.found? K.findings id = none) : Last id d c (K.first id d c)
  | settled {a : α} {t : Settlement ρ} (h : e.found? K.findings id = some a) (ht : K.Settles id a t) :
    Last id d c (t.progress a)

variable {K}

theorem first_of_found (hc : e.claimed? id = some (d, c)) (h : e.found? K.findings id = some a) :
    K.first id d c = { stage := .analyzed, analysis? := some a } := by
  simp only [found?, hc, Findings.result?] at h
  split at h
  · next hempty =>
    split at h
    · cases h
    · next hfaulty => simp [first, hempty, Findings.progress, hfaulty, h]
  · cases h

theorem first_of_not_found (hc : e.claimed? id = some (d, c)) (h : e.found? K.findings id = none) :
    (K.first id d c).stage = .errored ∨ (K.first id d c).stage = .skipped := by
  simp only [found?, hc, Findings.result?] at h
  unfold first
  split
  · next hempty =>
    rw [if_pos hempty] at h
    unfold Findings.progress
    split
    · exact .inl rfl
    · next hfaulty =>
      rw [if_neg hfaulty] at h
      rw [h]
      exact .inr rfl
  · exact .inl rfl

theorem first_not_running (hc : e.claimed? id = some (d, c)) :
    (K.first id d c).stage.isRunning = false := by
  cases h : e.found? K.findings id with
  | none => rcases first_of_not_found hc h with hs | hs <;> rw [hs] <;> rfl
  | some a => rw [first_of_found hc h]; rfl

/-- In the end a class is resolved, or has errors, or there is nothing to do. -/
theorem Last.stage (hc : e.claimed? id = some (d, c)) {p : Progress α ρ} (h : K.Last id d c p) :
    p.stage = .errored ∨ p.stage = .skipped ∨ p.stage = .resolved := by
  cases h with
  | first h => exact (first_of_not_found hc h).imp_right .inl
  | settled h ht =>
    unfold Settlement.progress
    split
    · exact .inl rfl
    · exact .inr (.inr rfl)

end Contract

/-! ### Single changes -/

namespace State

/-- One class comes to the record `r`; `running` are then the running declarations and `w` is the
world. Nothing else changes that can be asked for. -/
structure Puts (s t : State σ α ρ) (id : DeclarationId) (r : Record σ α ρ)
    (running : List DeclarationId) (w : σ) : Prop where
  self : Table.get? id t.records = some r
  other : ∀ j ≠ id, Table.get? j t.records = Table.get? j s.records
  running : t.running = running
  plain : t.plain = s.plain
  allAnalyzed : t.allAnalyzed = s.allAnalyzed
  world : t.world = w

section Puts

variable {s t : State σ α ρ} {id : DeclarationId} {r : Record σ α ρ} {l : List DeclarationId} {w : σ}

theorem puts_refl (hr : Table.get? id s.records = some r) : s.Puts s id r s.running s.world :=
  ⟨hr, fun _ _ => rfl, rfl, rfl, rfl, rfl⟩

theorem puts_record (s : State σ α ρ) (r : Record σ α ρ) :
    s.Puts (s.record r) r.node r s.running s.world :=
  ⟨Table.get?_put_self .., fun _ hj => Table.get?_put_of_ne hj .., rfl, rfl, rfl, rfl⟩

theorem Puts.note (h : s.Puts t id r l w) (level : Level) (message : String) :
    s.Puts (t.note level message) id r l w :=
  ⟨h.self, h.other, h.running, h.plain, h.allAnalyzed, h.world⟩

theorem Puts.enter (h : s.Puts t id r l w) : s.Puts (t.enter id) id r (l ++ [id]) w :=
  ⟨h.self, h.other, congrArg (· ++ [id]) h.running, h.plain, h.allAnalyzed, h.world⟩

theorem Puts.leave (h : s.Puts t id r (l ++ [id]) w) : s.Puts t.leave id r l w where
  self := h.self
  other := h.other
  running := by rw [State.leave, h.running, List.dropLast_concat]
  plain := h.plain
  allAnalyzed := h.allAnalyzed
  world := h.world

theorem Puts.move (h : s.Puts t id r l w) {f : Progress α ρ → Except IllegalMove (Progress α ρ)}
    {p : Progress α ρ} (hf : f r.progress = .ok p) :
    s.Puts (t.move id f) id { r with progress := p } l w := by
  have hmove : t.move id f = { t with records := Table.put id { r with progress := p } t.records } := by
    simp [State.move, h.self, hf]
  rw [hmove]
  refine ⟨Table.get?_put_self .., fun j hj => ?_, h.running, h.plain, h.allAnalyzed, h.world⟩
  rw [← h.other j hj]
  exact Table.get?_put_of_ne hj ..

/-- A handler that asks nothing changes the world and leaves everything else alone. -/
theorem Puts.handle (h : s.Puts t id r l w) (phase : Phase) {x : Routine σ α ρ β} {Q : β → σ → Prop}
    (hx : x.Yields w Q) :
    Runs (handle ask phase id x) (handle ask phase id x) t fun b u =>
      ∃ v w', b = .ok v ∧ Q v w' ∧ s.Puts u id r l w' := by
  rw [← h.world] at hx
  obtain ⟨w', log, hQ, heq⟩ :=
    perform_yields ask (s := t.remember (.entered phase id t.toScene)) hx
  refine ⟨rfl, _, w', rfl, hQ, ?_⟩
  show s.Puts (perform ask x (t.remember (.entered phase id t.toScene))).2 id r l w'
  rw [heq]
  exact ⟨h.self, h.other, h.running, h.plain, h.allAnalyzed, rfl⟩

end Puts

end State

/-! ### The phases -/

section Phases

variable {K : Contract e} {s t : State σ α ρ} {id : DeclarationId} {d : Declaration} {c : Claim σ α ρ}
  {r : Record σ α ρ} {l : List DeclarationId} {w : σ} {a : α} {done : DeclarationId → Prop}

theorem conclude_puts (h : s.Puts t id r l w) (hr : r.progress = { stage := .analyzing }) (name : String)
    (f : Findings α) :
    Runs (conclude id name f) (conclude id name f) t fun b u =>
      b = .ok f.result? ∧ s.Puts u id { r with progress := f.progress } l w := by
  unfold conclude Findings.result? Findings.progress
  split
  · exact .update_bind (.update_bind (.pure ⟨rfl, (h.note _ _).move (by rw [hr]; rfl)⟩))
  · cases f.analysis with
    | some a => exact .update_bind (.update_bind (.pure ⟨rfl, (h.move (by rw [hr]; rfl)).note _ _⟩))
    | none => exact .update_bind (.update_bind (.pure ⟨rfl, (h.move (by rw [hr]; rfl)).note _ _⟩))

theorem firstPhase_puts (hc : e.claimed? id = some (d, c)) (hempty : c.collisions.isEmpty)
    (hnew : ¬ done id) (hw : K.Before done w) (h : s.Puts t id (c.pending id d.name) l w) :
    Runs (firstPhase ask id d.name c) (firstPhase ask id d.name c) t fun b u =>
      b = .ok () ∧ ∃ w', K.Before (fun k => done k ∨ k = id) w' ∧
        s.Puts u id { c.pending id d.name with progress := (K.findings id).progress } l w' := by
  have hfound : e.found? K.findings id = (K.findings id).result? := by
    simp only [found?, hc, if_pos hempty]
  have hstart : s.Puts (t.move id (·.start)) id
      { c.pending id d.name with progress := { stage := .analyzing } } l w := h.move rfl
  unfold firstPhase
  refine .update_bind (.update_bind (.update_bind ?_))
  refine .bind ((hstart.note _ _).enter.handle .analyze (K.analyze hc hnew hw)) ?_ ?_
  · rintro findings u ⟨_, w', hv, ⟨rfl, hw'⟩, hu⟩
    cases hv
    -- the class counts as done only now, whether there is something to register or not
    refine .update_bind (.bind (conclude_puts hu.leave rfl d.name _) ?_ ?_)
    · rintro result v ⟨hresult, hv⟩
      cases hresult
      cases hresult : (K.findings id).result? with
      | none => exact .pure ⟨rfl, w', K.pass (hfound.trans hresult) hw', hv⟩
      | some a =>
        refine (hv.handle .register (K.register hc (hfound.trans hresult) hw')).mono ?_
        rintro b x ⟨_, w'', rfl, hw'', hx⟩
        exact ⟨rfl, w'', hw'', hx⟩
    · rintro err v ⟨hb, -⟩
      cases hb
  · rintro err u ⟨_, _, hb, -⟩
    cases hb

/-- A class that a handler has recognised goes through the first phase. -/
theorem analyzeClaimed_puts (hc : e.claimed? id = some (d, c)) (hnew : ¬ done id)
    (hw : K.Before done s.world) :
    Runs (analyzeClaimed ask id d c) (analyzeClaimed ask id d c) s fun b t =>
      b = .ok () ∧ ∃ w, K.Before (fun k => done k ∨ k = id) w ∧
        s.Puts t id { c.pending id d.name with progress := K.first id d c } s.running w := by
  have hput := s.puts_record (c.pending id d.name)
  unfold analyzeClaimed
  refine .update_bind ?_
  by_cases hempty : c.collisions.isEmpty
  · rw [Contract.first, if_pos hempty]
    simp only [hempty, Bool.not_true, Bool.false_eq_true, if_false]
    exact firstPhase_puts hc hempty hnew hw hput
  · have hnone : e.found? K.findings id = none := by simp only [found?, hc, if_neg hempty]
    rw [Contract.first, if_neg hempty]
    simp only [hempty, Bool.not_false, if_true]
    have hfail := hput.move (f := (·.fail [collision d c.detected c.collisions])) rfl
    exact .update_bind (.update ⟨rfl, _, K.pass hnone hw, hfail.note _ _⟩)

/-- An analysed class goes through the second phase. -/
theorem resolveNow_puts (hc : e.claimed? id = some (d, c)) (hfound : e.found? K.findings id = some a)
    (hw : K.After s.world) (hr : Table.get? id s.records = some r)
    (hpending : r = { c.pending id d.name with progress := { stage := .analyzed, analysis? := some a } }) :
    Runs (resolveNow ask id r a) (resolveNow ask id r a) s fun b t =>
      b = .ok () ∧ ∃ w q, K.After w ∧ K.Last id d c q ∧
        s.Puts t id { c.pending id d.name with progress := q } s.running w := by
  subst hpending
  have hresume : s.Puts (s.move id (·.resume)) id
      { c.pending id d.name with progress := { stage := .resolving, analysis? := some a } }
      s.running s.world := (State.puts_refl hr).move rfl
  unfold resolveNow
  refine .update_bind (.update_bind ?_)
  refine .bind (hresume.enter.handle .resolve (K.resolve hc hfound hw)) ?_ ?_
  · rintro settled u ⟨_, w', hv, ⟨hsettles, hw'⟩, hu⟩
    cases hv
    have hlast : K.Last id d c (settled.progress a) := .settled hfound hsettles
    refine .update_bind ?_
    unfold Settlement.progress at hlast
    split
    · next hfaulty =>
      rw [if_pos hfaulty] at hlast
      exact .update_bind (.update ⟨rfl, w', _, hw', hlast, (hu.leave.note _ _).move rfl⟩)
    · next hfaulty =>
      rw [if_neg hfaulty] at hlast
      have hend := hu.leave.move (f := (·.resolve settled.resolution)) rfl
      exact .update_bind (.update ⟨rfl, w', _, hw', hlast, hend.note _ _⟩)
  · rintro err u ⟨_, _, hb, -⟩
    cases hb

end Phases

end Engine

end ComponentAtlas

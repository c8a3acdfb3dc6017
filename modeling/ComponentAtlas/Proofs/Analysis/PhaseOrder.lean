import ComponentAtlas.Proofs.Roles.QueryOrder

/-!
# The order of the phases

Handlers that ask nothing are entered one after the other, and each of them finds the world as the one
before it left it. So a whole run of the engine is a list of deeds, and the phases come in order: a
class is registered right after an analysis without errors, and nothing is resolved before the last
class was registered.

* `Handler.Silent`: a handler that asks nothing, whatever the world is;
* `Deed`, `Transcript`: what handlers did, from one world to another;
* `Deed.Due`, `InOrder`: what has to be done before a deed, and deeds of which all that is true;
* `firstPhase_does`, `resolveNow_does`: the deeds of one class;
* `Told`: the invariant between two questions; `analyze_told`, `analyzeAll_told`, `resolve_told`: one
  question keeps it;
* `answers_inPhaseOrder`: a whole run.
-/

namespace ComponentAtlas

open ComponentAtlas.Script

/-! ### Handlers that ask nothing -/

namespace Routine

variable {σ α ρ β : Type}

/-- A routine ends in a world with a result, and leaves another world. -/
def EndsWith (r : Routine σ α ρ β) (w : σ) (b : β) (w' : σ) : Prop := r.Yields w fun x v => x = b ∧ v = w'

/-- A routine neither asks the engine nor looks at it, whatever the world is. -/
def Silent (r : Routine σ α ρ β) : Prop := ∀ w, r.Yields w fun _ _ => True

theorem Yields.exists_endsWith {r : Routine σ α ρ β} {w : σ} {Q : β → σ → Prop} (h : r.Yields w Q) :
    ∃ b w', r.EndsWith w b w' := by
  induction r generalizing w with
  | done b => exact ⟨b, w, rfl, rfl⟩
  | read next ih => exact ih w h
  | write world next ih => exact ih h
  | log level message next ih => exact ih h
  | look next | query q next => exact h.elim

end Routine

/-- A handler that never asks the engine. -/
structure Handler.Silent {σ α ρ : Type} (h : Handler σ α ρ) : Prop where
  analyze : ∀ id x, (h.analyze id x).Silent
  register : ∀ id a, (h.register id a).Silent
  resolve : ∀ id a, (h.resolve id a).Silent

namespace Engine

variable {σ α ρ β : Type} {e : Engine σ α ρ}
  {ask : Query → State σ α ρ → Except Failure (Answer α ρ) × State σ α ρ}

/-! ### Deeds -/

/-- What a handler did for a class, with what it was given and what it yielded. -/
inductive Deed (α ρ : Type)
  | analyze (id : DeclarationId) (f : Findings α)
  | register (id : DeclarationId) (a : α)
  | resolve (id : DeclarationId) (a : α) (t : Settlement ρ)

namespace Deed

/-- The phase and the class of a deed. -/
def entry : Deed α ρ → Phase × DeclarationId
  | .analyze id _ => (.analyze, id)
  | .register id _ => (.register, id)
  | .resolve id _ _ => (.resolve, id)

/-- The handler of the class does the deed in a world and leaves another one. -/
inductive Done (e : Engine σ α ρ) : Deed α ρ → σ → σ → Prop
  | analyze {id : DeclarationId} {d : Declaration} {c : Claim σ α ρ} {f : Findings α} {w w' : σ}
    (hc : e.claimed? id = some (d, c)) (h : (c.handler.analyze id c.detected).EndsWith w f w') :
    Done e (.analyze id f) w w'
  | register {id : DeclarationId} {d : Declaration} {c : Claim σ α ρ} {a : α} {w w' : σ}
    (hc : e.claimed? id = some (d, c)) (h : (c.handler.register id a).EndsWith w () w') :
    Done e (.register id a) w w'
  | resolve {id : DeclarationId} {d : Declaration} {c : Claim σ α ρ} {a : α} {t : Settlement ρ} {w w' : σ}
    (hc : e.claimed? id = some (d, c)) (h : (c.handler.resolve id a).EndsWith w t w') :
    Done e (.resolve id a t) w w'

/-- What has to be done before a deed. A class is registered after its analysis, which found no error.
A class is resolved after it was registered, and after the first phase of all classes that a handler
recognises without a collision. -/
def Due (e : Engine σ α ρ) (earlier : List (Deed α ρ)) : Deed α ρ → Prop
  | .analyze _ _ => True
  | .register id a => ∃ f, .analyze id f ∈ earlier ∧ f.result? = some a
  | .resolve id a _ => .register id a ∈ earlier ∧
    ∀ other d c, e.claimed? other = some (d, c) → c.collisions = [] →
      ∃ f, .analyze other f ∈ earlier ∧ ∀ b, f.result? = some b → .register other b ∈ earlier

end Deed

/-- Deeds that were done one after the other, the latest first, from a world to another one. -/
inductive Transcript (e : Engine σ α ρ) (w : σ) : List (Deed α ρ) → σ → Prop
  | nil : Transcript e w [] w
  | cons {deeds : List (Deed α ρ)} {x : Deed α ρ} {v v' : σ} (h : Transcript e w deeds v)
    (hx : x.Done e v v') : Transcript e w (x :: deeds) v'

theorem Transcript.append {w v u : σ} {earlier deeds : List (Deed α ρ)} (h : e.Transcript w earlier v)
    (h' : e.Transcript v deeds u) : e.Transcript w (deeds ++ earlier) u := by
  induction h' with
  | nil => exact h
  | cons _ hx ih => exact ih.cons hx

/-- Before every deed of a list, the latest first, everything was done that is due. -/
def InOrder (e : Engine σ α ρ) : List (Deed α ρ) → Prop
  | [] => True
  | x :: earlier => x.Due e earlier ∧ InOrder e earlier

/-- What is due before a deed of the list was done. -/
theorem InOrder.due {deeds : List (Deed α ρ)} (h : e.InOrder deeds) {x : Deed α ρ} (hx : x ∈ deeds) :
    ∃ later earlier, deeds = later ++ x :: earlier ∧ x.Due e earlier := by
  induction deeds with
  | nil => cases hx
  | cons y deeds ih =>
    rcases List.mem_cons.1 hx with rfl | hx
    · exact ⟨[], deeds, rfl, h.1⟩
    · obtain ⟨later, earlier, rfl, hdue⟩ := ih h.2 hx
      exact ⟨y :: later, earlier, rfl, hdue⟩

/-- The deeds of the first phase of a class. -/
def firstDeeds (id : DeclarationId) (f : Findings α) : List (Deed α ρ) :=
  match f.result? with
  | some a => [.register id a, .analyze id f]
  | none => [.analyze id f]

theorem analyze_mem_firstDeeds (id : DeclarationId) (f : Findings α) :
    (.analyze id f : Deed α ρ) ∈ firstDeeds id f := by
  unfold firstDeeds
  split <;> simp

theorem register_mem_firstDeeds {id : DeclarationId} {f : Findings α} {a : α} (h : f.result? = some a) :
    (.register id a : Deed α ρ) ∈ firstDeeds id f := by
  simp [firstDeeds, h]

theorem InOrder.firstDeeds {earlier : List (Deed α ρ)} (h : e.InOrder earlier) (id : DeclarationId)
    (f : Findings α) : e.InOrder (firstDeeds id f ++ earlier) := by
  unfold Engine.firstDeeds
  split
  · next a ha => exact ⟨⟨f, by simp, ha⟩, trivial, h⟩
  · exact ⟨trivial, h⟩

/-! ### The deeds of one class -/

namespace State

/-- One class comes to the record `r`, the world is then `w`, and on the way some phases were entered,
the latest first. -/
structure Does (s t : State σ α ρ) (id : DeclarationId) (r : Record σ α ρ)
    (running : List DeclarationId) (w : σ) (phases : List (Phase × DeclarationId)) : Prop
    extends s.Puts t id r running w where
  entries : t.entries = phases ++ s.entries

theorem entries_move (s : State σ α ρ) (id : DeclarationId)
    (f : Progress α ρ → Except IllegalMove (Progress α ρ)) : (s.move id f).entries = s.entries := by
  unfold move
  split
  · rfl
  · split <;> rfl

section Does

variable {s t : State σ α ρ} {id : DeclarationId} {r : Record σ α ρ} {l : List DeclarationId} {w w' : σ}
  {phases : List (Phase × DeclarationId)}

theorem Does.note (h : s.Does t id r l w phases) (level : Level) (message : String) :
    s.Does (t.note level message) id r l w phases :=
  ⟨h.toPuts.note level message, h.entries⟩

theorem Does.enter (h : s.Does t id r l w phases) : s.Does (t.enter id) id r (l ++ [id]) w phases :=
  ⟨h.toPuts.enter, h.entries⟩

theorem Does.leave (h : s.Does t id r (l ++ [id]) w phases) : s.Does t.leave id r l w phases :=
  ⟨h.toPuts.leave, h.entries⟩

theorem Does.move (h : s.Does t id r l w phases) {f : Progress α ρ → Except IllegalMove (Progress α ρ)}
    {p : Progress α ρ} (hf : f r.progress = .ok p) :
    s.Does (t.move id f) id { r with progress := p } l w phases :=
  ⟨h.toPuts.move hf, by rw [entries_move, h.entries]⟩

/-- A handler that asks nothing is entered, and changes the world. -/
theorem Does.handle (h : s.Does t id r l w phases) (phase : Phase) {x : Routine σ α ρ β} {b : β}
    (hx : x.EndsWith w b w') :
    Runs (handle ask phase id x) (handle ask phase id x) t fun b' u =>
      b' = .ok b ∧ s.Does u id r l w' ((phase, id) :: phases) := by
  rw [Routine.EndsWith, ← h.world] at hx
  obtain ⟨v, log, ⟨hb, rfl⟩, heq⟩ :=
    perform_yields ask (s := t.remember (.entered phase id t.toScene)) hx
  refine ⟨rfl, congrArg Except.ok hb, ?_⟩
  show s.Does (perform ask x (t.remember (.entered phase id t.toScene))).2 id r l v _
  rw [heq]
  exact ⟨⟨h.self, h.other, h.running, h.plain, h.allAnalyzed, rfl⟩, congrArg ((phase, id) :: ·) h.entries⟩

end Does

end State

section Phases

variable {s t : State σ α ρ} {id : DeclarationId} {d : Declaration} {c : Claim σ α ρ} {r : Record σ α ρ}
  {l : List DeclarationId} {w : σ} {a : α} {phases : List (Phase × DeclarationId)}

theorem conclude_does (h : s.Does t id r l w phases) (hr : r.progress = { stage := .analyzing })
    (name : String) (f : Findings α) :
    Runs (conclude id name f) (conclude id name f) t fun b u =>
      b = .ok f.result? ∧ s.Does u id { r with progress := f.progress } l w phases := by
  unfold conclude Findings.result? Findings.progress
  split
  · exact .update_bind (.update_bind (.pure ⟨rfl, (h.note _ _).move (by rw [hr]; rfl)⟩))
  · cases f.analysis with
    | some a => exact .update_bind (.update_bind (.pure ⟨rfl, (h.move (by rw [hr]; rfl)).note _ _⟩))
    | none => exact .update_bind (.update_bind (.pure ⟨rfl, (h.move (by rw [hr]; rfl)).note _ _⟩))

/-- A class is analysed, and then registered if the analysis has a result. -/
theorem firstPhase_does (hc : e.claimed? id = some (d, c)) (hsilent : c.handler.Silent)
    (h : s.Does t id (c.pending id d.name) l w []) :
    Runs (firstPhase ask id d.name c) (firstPhase ask id d.name c) t fun b u =>
      b = .ok () ∧ ∃ f w', e.Transcript w (firstDeeds id f) w' ∧
        s.Does u id { c.pending id d.name with progress := f.progress } l w'
          ((firstDeeds id f : List (Deed α ρ)).map Deed.entry) := by
  obtain ⟨f, w', hf⟩ := (hsilent.analyze id c.detected w).exists_endsWith
  have hanalyzed : e.Transcript w [.analyze id f] w' := .cons .nil (.analyze hc hf)
  have hstart : s.Does (t.move id (·.start)) id
      { c.pending id d.name with progress := { stage := .analyzing } } l w [] := h.move rfl
  unfold firstPhase
  refine .update_bind (.update_bind (.update_bind ?_))
  refine .bind ((hstart.note _ _).enter.handle .analyze hf) ?_ ?_
  · rintro _ u ⟨⟨⟩, hu⟩
    refine .update_bind (.bind (conclude_does hu.leave rfl d.name f) ?_ ?_)
    · rintro result v ⟨hresult, hv⟩
      cases hresult
      cases hresult : f.result? with
      | none =>
        refine .pure ⟨rfl, f, w', ?_, ?_⟩
        · simpa only [firstDeeds, hresult] using hanalyzed
        · simpa only [firstDeeds, hresult, List.map, Deed.entry] using hv
      | some a =>
        obtain ⟨_, w'', ha⟩ := (hsilent.register id a w').exists_endsWith
        refine (hv.handle .register ha).mono ?_
        rintro b x ⟨rfl, hx⟩
        refine ⟨rfl, f, w'', ?_, ?_⟩
        · simpa only [firstDeeds, hresult] using hanalyzed.cons (.register hc ha)
        · simpa only [firstDeeds, hresult, List.map, Deed.entry] using hx
    · rintro err v ⟨hb, -⟩
      cases hb
  · rintro err u ⟨hb, -⟩
    cases hb

/-- What the first phase of a class leads to: an error at once when annotations collide, else deeds. -/
inductive Begins (e : Engine σ α ρ) (id : DeclarationId) (c : Claim σ α ρ) (w : σ) :
    List (Deed α ρ) → σ → Progress α ρ → Prop
  | collided {p : Progress α ρ} (h : c.collisions ≠ []) (hs : p.stage = .errored) : Begins e id c w [] w p
  | analyzed {f : Findings α} {w' : σ} (h : c.collisions = [])
    (ht : e.Transcript w (firstDeeds id f) w') : Begins e id c w (firstDeeds id f) w' f.progress

theorem analyzeClaimed_does (hc : e.claimed? id = some (d, c)) (hsilent : c.handler.Silent) :
    Runs (analyzeClaimed ask id d c) (analyzeClaimed ask id d c) s fun b t =>
      b = .ok () ∧ ∃ deeds w p, e.Begins id c s.world deeds w p ∧
        s.Does t id { c.pending id d.name with progress := p } s.running w (deeds.map Deed.entry) := by
  have hput : s.Does (s.record (c.pending id d.name)) id (c.pending id d.name) s.running s.world [] :=
    ⟨s.puts_record (c.pending id d.name), rfl⟩
  unfold analyzeClaimed
  refine .update_bind ?_
  split
  · next hne =>
    have hfail := hput.move (f := (·.fail [collision d c.detected c.collisions])) rfl
    exact .update_bind (.update ⟨rfl, [], s.world, _, .collided (by simpa using hne) rfl, hfail.note _ _⟩)
  · next hempty =>
    refine (firstPhase_does hc hsilent hput).mono ?_
    rintro b t ⟨hb, f, w, ht, hdoes⟩
    exact ⟨hb, _, w, _, .analyzed (by simpa using hempty) ht, hdoes⟩

/-- A class with an analysis is resolved. -/
theorem resolveNow_does (hc : e.claimed? id = some (d, c)) (hsilent : c.handler.Silent)
    (hr : Table.get? id s.records =
      some { c.pending id d.name with progress := { stage := .analyzed, analysis? := some a } }) :
    Runs
      (resolveNow ask id { c.pending id d.name with progress := { stage := .analyzed, analysis? := some a } } a)
      (resolveNow ask id { c.pending id d.name with progress := { stage := .analyzed, analysis? := some a } } a)
      s fun b u => b = .ok () ∧ ∃ t w p, Deed.Done e (.resolve id a t) s.world w ∧
        (p.stage = .errored ∨ p.stage = .resolved) ∧
          s.Does u id { c.pending id d.name with progress := p } s.running w [(.resolve, id)] := by
  obtain ⟨t, w, ht⟩ := (hsilent.resolve id a s.world).exists_endsWith
  have hresume : s.Does (s.move id (·.resume)) id
      { c.pending id d.name with progress := { stage := .resolving, analysis? := some a } }
      s.running s.world [] := State.Does.move ⟨State.puts_refl hr, rfl⟩ rfl
  unfold resolveNow
  refine .update_bind (.update_bind (.bind (hresume.enter.handle .resolve ht) ?_ ?_))
  · rintro _ u ⟨⟨⟩, hu⟩
    refine .update_bind ?_
    split
    · exact .update_bind (.update ⟨rfl, t, w, _, .resolve hc ht, .inl rfl, (hu.leave.note _ _).move rfl⟩)
    · have hend := hu.leave.move (f := (·.resolve t.resolution)) rfl
      exact .update_bind (.update ⟨rfl, t, w, _, .resolve hc ht, .inr rfl, hend.note _ _⟩)
  · rintro err u ⟨hb, -⟩
    cases hb

end Phases

/-! ### The invariant between two questions -/

/-- How far a class has come, as the deeds tell. -/
inductive Stands (deeds : List (Deed α ρ)) (id : DeclarationId) (c : Claim σ α ρ) : Progress α ρ → Prop
  | collided {p : Progress α ρ} (h : c.collisions ≠ []) (hs : p.stage = .errored) : Stands deeds id c p
  | dropped {f : Findings α} {p : Progress α ρ} (h : .analyze id f ∈ deeds) (hf : f.result? = none)
    (hs : p.stage = .errored ∨ p.stage = .skipped) : Stands deeds id c p
  | ready {f : Findings α} {a : α} (h : .analyze id f ∈ deeds) (hf : f.result? = some a)
    (ha : .register id a ∈ deeds) : Stands deeds id c { stage := .analyzed, analysis? := some a }
  | settled {f : Findings α} {a : α} {p : Progress α ρ} (h : .analyze id f ∈ deeds)
    (hf : f.result? = some a) (ha : .register id a ∈ deeds)
    (hs : p.stage = .errored ∨ p.stage = .resolved) : Stands deeds id c p

/-- Stages at which no phase is about to begin or running. -/
def AtRest (stage : Stage) : Prop := stage ∉ [.pending, .analyzing, .resolving]

section Stands

variable {deeds more : List (Deed α ρ)} {id : DeclarationId} {c : Claim σ α ρ} {p : Progress α ρ}

theorem Stands.mono (h : Stands deeds id c p) (hsub : deeds ⊆ more) : Stands more id c p := by
  cases h with
  | collided h hs => exact .collided h hs
  | dropped h hf hs => exact .dropped (hsub h) hf hs
  | ready h hf ha => exact .ready (hsub h) hf (hsub ha)
  | settled h hf ha hs => exact .settled (hsub h) hf (hsub ha) hs

theorem Stands.atRest (h : Stands deeds id c p) : AtRest p.stage := by
  cases h with
  | collided h hs => simp [AtRest, hs]
  | dropped h hf hs => rcases hs with hs | hs <;> simp [AtRest, hs]
  | ready h hf ha => simp [AtRest]
  | settled h hf ha hs => rcases hs with hs | hs <;> simp [AtRest, hs]

/-- The first phase of a class without a collision is over. -/
theorem Stands.exists_analyze (h : Stands deeds id c p) (hc : c.collisions = []) :
    ∃ f, .analyze id f ∈ deeds ∧ ∀ b, f.result? = some b → .register id b ∈ deeds := by
  cases h with
  | collided h hs => exact absurd hc h
  | @dropped f _ h hf hs => exact ⟨f, h, fun b hb => by rw [hf] at hb; cases hb⟩
  | @ready f a h hf ha => exact ⟨f, h, fun b hb => by rw [hf] at hb; cases hb; exact ha⟩
  | @settled f a _ h hf ha hs => exact ⟨f, h, fun b hb => by rw [hf] at hb; cases hb; exact ha⟩

theorem stands_firstDeeds (id : DeclarationId) (c : Claim σ α ρ) (f : Findings α)
    (deeds : List (Deed α ρ)) : Stands (firstDeeds id f ++ deeds) id c f.progress := by
  have hmem : (.analyze id f : Deed α ρ) ∈ firstDeeds id f ++ deeds :=
    List.mem_append_left _ (analyze_mem_firstDeeds id f)
  unfold Findings.progress
  split
  · next hfaulty => exact .dropped hmem (by rw [Findings.result?, if_pos hfaulty]) (.inl rfl)
  · next hfaulty =>
    have hresult : f.result? = f.analysis := by rw [Findings.result?, if_neg hfaulty]
    cases hanalysis : f.analysis with
    | none => exact .dropped hmem (hresult.trans hanalysis) (.inr rfl)
    | some a =>
      have ha : f.result? = some a := hresult.trans hanalysis
      exact .ready hmem ha (List.mem_append_left _ (register_mem_firstDeeds ha))

end Stands

/-- A class is recorded, or known to have no role. -/
def State.Seen (s : State σ α ρ) (id : DeclarationId) : Prop := s.Has id ∨ id ∈ s.plain

/-- The invariant between two questions: from the first world on, the deeds came in order and led to the
world and the records that there are. -/
structure Told (e : Engine σ α ρ) (world : σ) (deeds : List (Deed α ρ)) (s : State σ α ρ) : Prop where
  transcript : e.Transcript world deeds s.world
  entries : s.entries = deeds.map Deed.entry
  inOrder : e.InOrder deeds
  registered : ∀ {id f a}, .analyze id f ∈ deeds → f.result? = some a → .register id a ∈ deeds
  running : s.running = []
  plain : ∀ id ∈ s.plain, e.claimed? id = none
  record : ∀ {id r}, Table.get? id s.records = some r → ∃ d c p, e.claimed? id = some (d, c) ∧
    r = { c.pending id d.name with progress := p } ∧ Stands deeds id c p
  all : s.allAnalyzed → ∀ d ∈ e.program.declarations, d.isClass → s.Seen d.id

section Told

variable {world w : σ} {deeds more : List (Deed α ρ)} {s t : State σ α ρ} {id : DeclarationId}
  {d : Declaration} {c : Claim σ α ρ} {p : Progress α ρ}

theorem told_new (e : Engine σ α ρ) (world : σ) (log : Log) : e.Told world [] { world, log } where
  transcript := .nil
  entries := rfl
  inOrder := trivial
  registered h := nomatch h
  running := rfl
  plain _ h := nomatch h
  record h := nomatch h
  all h := nomatch h

theorem State.Does.seen {r : Record σ α ρ} {l : List DeclarationId} {phases : List (Phase × DeclarationId)}
    (h : s.Does t id r l w phases) {k : DeclarationId} (hk : s.Seen k) : t.Seen k := by
  rcases hk with hk | hk
  · exact .inl ((h.has_iff k).2 (.inl hk))
  · exact .inr (by rw [h.plain]; exact hk)

/-- One class comes further by some deeds, which are added to those that were done. -/
theorem Told.extend (h : e.Told world deeds s) (hc : e.claimed? id = some (d, c))
    (hdoes : s.Does t id { c.pending id d.name with progress := p } [] w (more.map Deed.entry))
    (htranscript : e.Transcript s.world more w) (horder : e.InOrder (more ++ deeds))
    (hregistered : ∀ {k f a}, .analyze k f ∈ more → f.result? = some a → .register k a ∈ more)
    (hp : Stands (more ++ deeds) id c p) : e.Told world (more ++ deeds) t where
  transcript := by
    rw [hdoes.world]
    exact h.transcript.append htranscript
  entries := by rw [hdoes.entries, h.entries, List.map_append]
  inOrder := horder
  registered := by
    intro k f a hmem ha
    rcases List.mem_append.1 hmem with hmem | hmem
    · exact List.mem_append_left _ (hregistered hmem ha)
    · exact List.mem_append_right _ (h.registered hmem ha)
  running := hdoes.running
  plain := by rw [hdoes.plain]; exact h.plain
  record := by
    intro k r hr
    by_cases hk : k = id
    · subst hk
      rw [hdoes.self] at hr
      cases hr
      exact ⟨d, c, p, hc, rfl, hp⟩
    · rw [hdoes.other k hk] at hr
      obtain ⟨d', c', p', hc', hr', hp'⟩ := h.record hr
      exact ⟨d', c', p', hc', hr', hp'.mono (List.subset_append_right _ _)⟩
  all hall k hk hclass := by
    rw [hdoes.allAnalyzed] at hall
    exact hdoes.seen (h.all hall k hk hclass)

theorem Told.remember (h : e.Told world deeds s) (q : Query) (before after : Scene σ α ρ)
    (answer : Except Failure (Answer α ρ)) :
    e.Told world deeds (s.remember (.answered q before answer after)) :=
  ⟨h.transcript, h.entries, h.inOrder, h.registered, h.running, h.plain, h.record, h.all⟩

theorem Told.stage_atRest (h : e.Told world deeds s) {stage : Stage} (hs : s.stage? id = some stage) :
    AtRest stage := by
  obtain ⟨p, hp, rfl⟩ := Option.map_eq_some_iff.1 hs
  obtain ⟨r, hr, rfl⟩ := Option.map_eq_some_iff.1 hp
  obtain ⟨d, c, p, -, rfl, hstands⟩ := h.record hr
  exact hstands.atRest

/-- When the whole program was analysed, the first phase of all classes is over. -/
theorem Told.analyzed (h : e.Told world deeds s) (hp : e.program.Numbered) (hall : s.allAnalyzed)
    (hc : e.claimed? id = some (d, c)) (hempty : c.collisions = []) :
    ∃ f, .analyze id f ∈ deeds ∧ ∀ b, f.result? = some b → .register id b ∈ deeds := by
  obtain ⟨d', hd, hclass⟩ := isClass_of_claimed? (show (e.claimed? id).isSome by rw [hc]; rfl)
  have hseen := h.all hall d' (List.mem_of_getElem? hd) hclass
  rw [hp id d' hd] at hseen
  rcases hseen with hhas | hplain
  · obtain ⟨r, hr⟩ := Option.isSome_iff_exists.1 hhas
    obtain ⟨d'', c', p, hc', -, hstands⟩ := h.record hr
    cases hc.symm.trans hc'
    exact hstands.exists_analyze hempty
  · cases hc.symm.trans (h.plain id hplain)

end Told

/-! ### One question -/

section Question

variable {world : σ} {deeds : List (Deed α ρ)} {s : State σ α ρ}
  (hsilent : ∀ h ∈ e.handlers, h.Silent)

include hsilent

theorem analyze_told (h : e.Told world deeds s) (id : DeclarationId) :
    Runs (analyze e ask id) (analyze e ask id) s fun b t =>
      b = .ok () ∧ (∃ deeds', e.Told world deeds' t) ∧ (∀ k, s.Seen k → t.Seen k) ∧ t.Seen id := by
  unfold analyze
  refine .get_bind ?_
  split
  · next hstage => exact absurd (by simp) (h.stage_atRest hstage)
  · next stage hne hstage =>
    refine .pure ⟨rfl, ⟨deeds, h⟩, fun _ hk => hk, .inl ?_⟩
    obtain ⟨p, hp, -⟩ := Option.map_eq_some_iff.1 hstage
    obtain ⟨r, hr, -⟩ := Option.map_eq_some_iff.1 hp
    rw [State.Has, hr]
    rfl
  · split
    · next hplain => exact .pure ⟨rfl, ⟨deeds, h⟩, fun _ hk => hk, .inr hplain⟩
    · rw [analyzeNew_eq]
      cases hc : e.claimed? id with
      | none =>
        have hgrows : ∀ k, s.Seen k → State.Seen { s with plain := s.plain ++ [id] } k := fun k hk =>
          hk.imp_right (List.mem_append_left _)
        refine .update ⟨rfl, ⟨deeds, ?_⟩, hgrows, .inr (List.mem_append_right _ (List.mem_singleton_self _))⟩
        refine ⟨h.transcript, h.entries, h.inOrder, h.registered, h.running, ?_, h.record,
          fun hall d hd hclass => hgrows _ (h.all hall d hd hclass)⟩
        intro k hk
        rcases List.mem_append.1 hk with hk | hk
        · exact h.plain k hk
        · rw [List.mem_singleton.1 hk]
          exact hc
      | some claimed =>
        obtain ⟨d, c⟩ := claimed
        have hmember := (claim?_recognises (claim?_of_claimed? hc)).1
        refine (analyzeClaimed_does hc (hsilent _ hmember)).mono ?_
        rintro b t ⟨rfl, more, w, p, hbegins, hdoes⟩
        rw [h.running] at hdoes
        refine ⟨rfl, ⟨more ++ deeds, ?_⟩, fun k hk => hdoes.seen hk, .inl ?_⟩
        · cases hbegins with
          | collided hne hs =>
            exact h.extend hc hdoes .nil h.inOrder (fun hm => absurd hm List.not_mem_nil) (.collided hne hs)
          | @analyzed f _ hempty ht =>
            refine h.extend hc hdoes ht (h.inOrder.firstDeeds id f) ?_ (stands_firstDeeds id c f deeds)
            intro k f' a hm ha
            unfold firstDeeds at hm ⊢
            split at hm <;> simp_all
        · rw [State.Has, hdoes.self]
          rfl

theorem analyzeEach_told (ds : List Declaration) (h : e.Told world deeds s) :
    Runs (analyzeEach e ask ds true) (analyzeEach e ask ds true) s fun b t =>
      b = .ok true ∧ (∃ deeds', e.Told world deeds' t) ∧ (∀ k, s.Seen k → t.Seen k) ∧
        ∀ d ∈ ds, d.isClass → t.Seen d.id := by
  induction ds generalizing s deeds with
  | nil => exact .pure ⟨rfl, ⟨deeds, h⟩, fun _ hk => hk, fun _ hd => absurd hd List.not_mem_nil⟩
  | cons d ds ih =>
    unfold analyzeEach
    split
    · next hclass =>
      refine (ih h).mono ?_
      rintro b t ⟨hb, ht, hgrows, hseen⟩
      refine ⟨hb, ht, hgrows, List.forall_mem_cons.2 ⟨fun hd => ?_, hseen⟩⟩
      simp [hd] at hclass
    · refine .get_bind ?_
      split
      · next hrunning => rw [h.running] at hrunning; cases hrunning
      · refine .bind (analyze_told hsilent h d.id) ?_ ?_
        · rintro _ t ⟨-, ⟨deeds', ht⟩, hgrows, hd⟩
          refine (ih ht).mono ?_
          rintro b u ⟨hb, hu, hgrows', hseen⟩
          exact ⟨hb, hu, fun k hk => hgrows' k (hgrows k hk),
            List.forall_mem_cons.2 ⟨fun _ => hgrows' _ hd, hseen⟩⟩
        · rintro err t ⟨hb, -⟩
          cases hb

theorem analyzeAll_told (h : e.Told world deeds s) :
    Runs (analyzeAll e ask) (analyzeAll e ask) s fun b t =>
      b = .ok () ∧ (∃ deeds', e.Told world deeds' t) ∧ t.allAnalyzed := by
  unfold analyzeAll
  refine .get_bind ?_
  split
  · next hall => exact .pure ⟨rfl, ⟨deeds, h⟩, hall⟩
  · refine .bind (analyzeEach_told hsilent _ h) ?_ ?_
    · rintro whole t ⟨hwhole, ⟨deeds', ht⟩, -, hseen⟩
      cases hwhole
      refine .update ⟨rfl, ⟨deeds', ?_⟩, rfl⟩
      exact ⟨ht.transcript, ht.entries, ht.inOrder, ht.registered, ht.running, ht.plain, ht.record,
        fun _ => hseen⟩
    · rintro err t ⟨hb, -⟩
      cases hb

theorem resolve_told (hp : e.program.Numbered) (h : e.Told world deeds s) (id : DeclarationId) :
    Runs (resolve e ask id) (resolve e ask id) s fun b t =>
      b = .ok () ∧ (∃ deeds', e.Told world deeds' t) ∧ t.allAnalyzed := by
  unfold resolve
  refine .bind (analyze_told hsilent h id) ?_ ?_
  · rintro _ t ⟨-, ⟨_, ht⟩, -, -⟩
    refine .bind (analyzeAll_told hsilent ht) ?_ ?_
    · rintro _ u ⟨-, ⟨deeds', hu⟩, hall⟩
      have hdone : Runs (pure ()) (pure ()) u fun b t =>
          b = .ok () ∧ (∃ deeds', e.Told world deeds' t) ∧ t.allAnalyzed := .pure ⟨rfl, ⟨deeds', hu⟩, hall⟩
      refine .get_bind ?_
      split
      · exact hdone
      · next r hr =>
        obtain ⟨d, c, p, hc, rfl, hstands⟩ := hu.record hr
        cases hstands with
        | collided hne hs => simpa only [hs] using hdone
        | dropped hf ha hs => rcases hs with hs | hs <;> simpa only [hs] using hdone
        | settled hf ha hr hs => rcases hs with hs | hs <;> simpa only [hs] using hdone
        | @ready f a hf ha hregister =>
          have hmember := (claim?_recognises (claim?_of_claimed? hc)).1
          refine (resolveNow_does hc (hsilent _ hmember) hr).mono ?_
          rintro b v ⟨rfl, t, w, q, hdone, hlate, hdoes⟩
          rw [hu.running] at hdoes
          refine ⟨rfl, ⟨[.resolve id a t] ++ deeds', ?_⟩, by rw [hdoes.allAnalyzed]; exact hall⟩
          have hdue : Deed.Due e deeds' (.resolve id a t) :=
            ⟨hregister, fun other d' c' hc' hempty => hu.analyzed hp hall hc' hempty⟩
          refine hu.extend hc hdoes (.cons .nil hdone) ⟨hdue, hu.inOrder⟩ (fun hm => by simp at hm) ?_
          exact .settled (List.mem_cons_of_mem _ hf) ha (List.mem_cons_of_mem _ hregister) hlate
    · rintro err u ⟨hb, -⟩
      cases hb
  · rintro err t ⟨hb, -⟩
    cases hb

end Question

variable (ask) in
theorem reply_told {world : σ} {deeds : List (Deed α ρ)} {s : State σ α ρ} (hp : e.program.Numbered)
    (hsilent : ∀ h ∈ e.handlers, h.Silent) (h : e.Told world deeds s) (q : Query) :
    Runs (reply e ask q) (reply e ask q) s fun _ t =>
      (∃ deeds', e.Told world deeds' t) ∧ (analyzesAll q → t.allAnalyzed) := by
  have hprepare : Runs (prepare e ask q) (prepare e ask q) s fun b t =>
      b = .ok () ∧ (∃ deeds', e.Told world deeds' t) ∧ (analyzesAll q → t.allAnalyzed) := by
    cases q with
    | analyze id | role id =>
      refine (analyze_told hsilent h id).mono ?_
      rintro b t ⟨hb, ht, -⟩
      exact ⟨hb, ht, fun hq => absurd hq Bool.false_ne_true⟩
    | analyzeAll =>
      refine (analyzeAll_told hsilent h).mono ?_
      rintro b t ⟨hb, ht, hall⟩
      exact ⟨hb, ht, fun _ => hall⟩
    | resolve id | analysis id | resolution id | diagnostics id =>
      refine (resolve_told hsilent hp h id).mono ?_
      rintro b t ⟨hb, ht, hall⟩
      exact ⟨hb, ht, fun _ => hall⟩
  rw [reply_eq]
  refine .bind hprepare ?_ ?_
  · rintro _ t ⟨-, ht⟩
    exact ⟨rfl, ht⟩
  · rintro err t ⟨hb, -⟩
    cases hb

/-! ### All questions -/

/-- Every class of the program is at rest, or known to have no role. -/
def Surveyed (e : Engine σ α ρ) (s : State σ α ρ) : Prop :=
  ∀ d ∈ e.program.declarations, d.isClass →
    d.id ∈ s.plain ∨ ∃ stage, s.stage? d.id = some stage ∧ AtRest stage

section Run

variable {world : σ} {deeds : List (Deed α ρ)} {s : State σ α ρ}

theorem Told.surveyed (h : e.Told world deeds s) (hall : s.allAnalyzed) : e.Surveyed s := by
  intro d hd hclass
  rcases h.all hall d hd hclass with hhas | hplain
  · obtain ⟨r, hr⟩ := Option.isSome_iff_exists.1 hhas
    have hstage : s.stage? d.id = some r.progress.stage := by simp [Scene.stage?, Scene.progress?, hr]
    exact .inr ⟨_, hstage, h.stage_atRest hstage⟩
  · exact .inl hplain

theorem answer_told (hp : e.program.Numbered) (hsilent : ∀ h ∈ e.handlers, h.Silent)
    (h : e.Told world deeds s) (q : Query) :
    (∃ deeds', e.Told world deeds' (e.answer q s).2) ∧ (analyzesAll q → (e.answer q s).2.allAnalyzed) := by
  obtain ⟨-, ⟨deeds', ht⟩, hall⟩ := reply_told (answerWithin e (e.depth - 1)) hp hsilent h q
  exact ⟨⟨deeds', ht.remember _ _ _ _⟩, hall⟩

theorem answers_told (hp : e.program.Numbered) (hsilent : ∀ h ∈ e.handlers, h.Silent)
    (h : e.Told world deeds s) (qs : List Query) : ∃ deeds', e.Told world deeds' (e.answers qs s) := by
  induction qs generalizing s deeds with
  | nil => exact ⟨deeds, h⟩
  | cons q qs ih =>
    obtain ⟨⟨deeds', ht⟩, -⟩ := answer_told hp hsilent h q
    exact ih ht

end Run

/-- **The phases come in order.** The handlers ask nothing. Whatever is asked one after the other, from
a new engine, the handlers that were entered did one deed after the other, from the first world to the
last one, each phase of a class at most once, and:

* before every deed all was done that is due: a class is registered with the analysis that was found
  without errors before, and resolved after it was registered and after the first phase of all classes
  that a handler recognises without a collision;
* a class is registered exactly if an analysis was found without errors, and with this analysis;
* if the whole program counts as analysed, then all classes are at rest or known to have no role;
* the whole program counts as analysed after every question for which it has to be. -/
theorem answers_inPhaseOrder (e : Engine σ α ρ) (hp : e.program.Numbered)
    (hsilent : ∀ h ∈ e.handlers, h.Silent) (world : σ) (log : Log) (qs : List Query) :
    (∃ deeds, e.Transcript world deeds (e.answers qs { world, log }).world ∧
      (e.answers qs { world, log }).entries = deeds.map Deed.entry ∧
      (deeds.map Deed.entry).Nodup ∧ e.InOrder deeds ∧
      ∀ id a, .register id a ∈ deeds ↔ ∃ f, .analyze id f ∈ deeds ∧ f.result? = some a) ∧
    ((e.answers qs { world, log }).allAnalyzed → e.Surveyed (e.answers qs { world, log })) ∧
    ∀ q, analyzesAll q → (e.answer q (e.answers qs { world, log })).2.allAnalyzed ∧
      e.Surveyed (e.answer q (e.answers qs { world, log })).2 := by
  obtain ⟨deeds, h⟩ := answers_told hp hsilent (e.told_new world log) qs
  have hnodup := (answers_sound (e.sound_new world log) qs le_rfl).1.nodup
  refine ⟨⟨deeds, h.transcript, h.entries, h.entries ▸ hnodup, h.inOrder, fun id a => ⟨fun ha => ?_, ?_⟩⟩,
    h.surveyed, fun q hq => ?_⟩
  · obtain ⟨later, earlier, rfl, f, hf, hresult⟩ := h.inOrder.due ha
    exact ⟨f, List.mem_append_right _ (List.mem_cons_of_mem _ hf), hresult⟩
  · rintro ⟨f, hf, ha⟩
    exact h.registered hf ha
  · obtain ⟨⟨deeds', h'⟩, hall⟩ := answer_told hp hsilent h q
    exact ⟨hall hq, h'.surveyed (hall hq)⟩

end Engine

/-- The handlers of the five roles ask nothing. -/
theorem Context.handlers_silent (cx : Context) : ∀ h ∈ cx.engine.handlers, h.Silent := by
  have hroutine : ∀ {β : Type} (x : Work β), x.routine.Silent := fun x w => Work.routine_yields trivial
  intro h hmem
  simp only [Context.engine, Context.handlers, List.mem_cons, List.not_mem_nil, or_false] at hmem
  rcases hmem with rfl | rfl | rfl | rfl | rfl
  · exact ⟨fun id x => hroutine (Work.component cx id x), fun _ _ => hroutine _, fun _ _ => hroutine _⟩
  · exact ⟨fun id x => hroutine (Work.directive cx id x), fun _ _ => hroutine _, fun _ _ _ => trivial⟩
  · exact ⟨fun id x => hroutine (Work.pipe cx id x), fun _ _ => hroutine _, fun _ _ _ => trivial⟩
  · refine ⟨fun id x => hroutine (Work.injectable cx id x), fun id _ => ?_, fun _ _ _ => trivial⟩
    exact hroutine (Work.register (·.note (cx.declaration id).file id .injectable))
  · exact ⟨fun id x => hroutine (Work.ngModule cx id x), fun _ _ => hroutine _, fun _ _ => hroutine _⟩

/-- Two classes: the second one is asked for first, but is resolved after both were registered. -/
theorem Engine.answers_inPhaseOrder_importsBound :
    ∃ cx : Context, Program.load Context.importsBound ["/main.ts"] {} = .ok cx.program ∧
      (∀ h ∈ cx.engine.handlers, h.Silent) ∧
      ∃ deeds, cx.engine.Transcript {} deeds
          (cx.engine.answers [.resolve 1] { world := {}, log := default }).world ∧
        deeds.map Deed.entry =
          [(.resolve, 1), (.register, 0), (.analyze, 0), (.register, 1), (.analyze, 1)] ∧
        cx.engine.InOrder deeds := by
  have hentries : ((Program.load Context.importsBound ["/main.ts"] {}).toOption.map fun program =>
      (Engine.answers (Context.engine { program }) [.resolve 1] { world := {}, log := default }).entries) =
        some [(.resolve, 1), (.register, 0), (.analyze, 0), (.register, 1), (.analyze, 1)] := by
    decide +kernel
  cases hload : Program.load Context.importsBound ["/main.ts"] {} with
  | error err => rw [hload] at hentries; cases hentries
  | ok program =>
    rw [hload] at hentries
    obtain ⟨⟨deeds, htranscript, hdeeds, -, horder, -⟩, -⟩ :=
      answers_inPhaseOrder (Context.engine { program }) (Program.load_numbered hload)
        (Context.handlers_silent { program }) {} default [.resolve 1]
    refine ⟨{ program }, rfl, Context.handlers_silent _, deeds, htranscript, ?_, horder⟩
    rw [← hdeeds]
    exact Option.some.inj hentries

end ComponentAtlas

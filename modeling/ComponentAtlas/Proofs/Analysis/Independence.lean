import ComponentAtlas.Proofs.Analysis.Contract

/-!
# What the engine finds out, whatever was asked before

Handlers keep a contract: the first phase of a class does not depend on what the world knows about
other classes, and the second phase depends on it only after the whole program was analysed. Then the
order of the questions plays no part.

* `Contract.Tracks`: the invariant between two questions;
* `analyze_tracks`, `analyzeAll_tracks`, `resolve_tracks`, `reply_tracks`: one question keeps it;
* `answers_tracks`: many questions keep it;
* `Contract.answers_independent`: two engines that were asked different things give the same answers.
-/

namespace ComponentAtlas.Engine

open ComponentAtlas.Script

variable {σ α ρ : Type} {e : Engine σ α ρ}
  {ask : Query → State σ α ρ → Except Failure (Answer α ρ) × State σ α ρ}

/-! ### The invariant between two questions -/

/-- Whether there is a record of a class. -/
def State.Has (s : State σ α ρ) (id : DeclarationId) : Prop := (Table.get? id s.records).isSome

theorem State.Puts.has_iff {s t : State σ α ρ} {id : DeclarationId} {r : Record σ α ρ}
    {l : List DeclarationId} {w : σ} (h : s.Puts t id r l w) (k : DeclarationId) :
    t.Has k ↔ s.Has k ∨ k = id := by
  by_cases hk : k = id
  · simp [State.Has, hk, h.self]
  · simp [State.Has, hk, h.other k hk]

namespace Contract

variable (K : Contract e)

/-- The invariant between two questions: no handler is at work, every recorded class is as far as one
of the phases leads, and the world knows what it should. -/
structure Tracks (s : State σ α ρ) : Prop where
  running : s.running = []
  plain : ∀ id ∈ s.plain, e.claimed? id = none
  record : ∀ {id r}, Table.get? id s.records = some r → ∃ d c p, e.claimed? id = some (d, c) ∧
    r = { c.pending id d.name with progress := p } ∧
      (p = K.first id d c ∨ s.allAnalyzed ∧ K.Last id d c p)
  before : s.allAnalyzed = false → K.Before s.Has s.world
  after : s.allAnalyzed → K.After s.world
  all : s.allAnalyzed → ∀ id, (e.claimed? id).isSome → s.Has id

/-- A class is as far as it can come. -/
structure Ended (id : DeclarationId) (s : State σ α ρ) : Prop where
  plain : e.claimed? id = none → Table.get? id s.records = none
  record : ∀ {d c}, e.claimed? id = some (d, c) → ∃ p,
    Table.get? id s.records = some { c.pending id d.name with progress := p } ∧ K.Last id d c p

/-- What a question has done for the class that it is about. -/
def Serves (s : State σ α ρ) : Query → Prop
  | .analyzeAll => True
  | .analyze id | .role id => (e.claimed? id).isSome → s.Has id
  | .resolve id | .analysis id | .resolution id | .diagnostics id => K.Ended id s

variable {K} {s t : State σ α ρ} {id : DeclarationId} {d : Declaration} {c : Claim σ α ρ}
  {p : Progress α ρ} {w : σ}

theorem tracks_new (hw : K.Before (fun _ => False) w) (log : Log) : K.Tracks { world := w, log } where
  running := rfl
  plain _ h := nomatch h
  record h := nomatch h
  before _ := by
    have hnone : State.Has ({ world := w, log } : State σ α ρ) = fun _ => False := by
      funext k
      simp [State.Has]
    rw [hnone]
    exact hw
  after h := nomatch h
  all h := nomatch h

/-- One class comes further, and the world learns about it. -/
theorem Tracks.put (h : K.Tracks s) (hc : e.claimed? id = some (d, c))
    (hput : s.Puts t id { c.pending id d.name with progress := p } [] w)
    (hp : p = K.first id d c ∨ s.allAnalyzed ∧ K.Last id d c p)
    (hbefore : s.allAnalyzed = false → K.Before (fun k => s.Has k ∨ k = id) w)
    (hafter : s.allAnalyzed → K.After w) : K.Tracks t where
  running := hput.running
  plain := by rw [hput.plain]; exact h.plain
  record := by
    intro j r hr
    rw [hput.allAnalyzed]
    by_cases hj : j = id
    · subst hj
      rw [hput.self] at hr
      cases hr
      exact ⟨d, c, p, hc, rfl, hp⟩
    · rw [hput.other j hj] at hr
      exact h.record hr
  before hall := by
    have hhas : t.Has = fun k => s.Has k ∨ k = id := funext fun k => propext (hput.has_iff k)
    rw [hput.allAnalyzed] at hall
    rw [hput.world, hhas]
    exact hbefore hall
  after hall := by
    rw [hput.allAnalyzed] at hall
    rw [hput.world]
    exact hafter hall
  all hall j hj := by
    rw [hput.allAnalyzed] at hall
    exact (hput.has_iff j).2 (.inl (h.all hall j hj))

theorem Tracks.not_running (h : K.Tracks s) {stage : Stage} (hs : s.stage? id = some stage) :
    stage.isRunning = false := by
  simp only [Scene.stage?, Scene.progress?, Option.map_map, Option.map_eq_some_iff] at hs
  obtain ⟨r, hr, rfl⟩ := hs
  obtain ⟨d, c, p, hc, rfl, hp⟩ := h.record hr
  rcases hp with rfl | ⟨-, hp⟩
  · exact first_not_running hc
  · rcases hp.stage hc with hs | hs | hs <;> simp [hs, Stage.isRunning]

/-- A recorded class is ready for the second phase, or as far as it can come. -/
theorem Tracks.open_or_last (h : K.Tracks s) {r : Record σ α ρ} (hr : Table.get? id s.records = some r) :
    ∃ d c p, e.claimed? id = some (d, c) ∧ r = { c.pending id d.name with progress := p } ∧
      ((∃ a, e.found? K.findings id = some a ∧ p = { stage := .analyzed, analysis? := some a }) ∨
        K.Last id d c p) := by
  obtain ⟨d, c, p, hc, hr, hp⟩ := h.record hr
  refine ⟨d, c, p, hc, hr, ?_⟩
  rcases hp with rfl | ⟨-, hp⟩
  · cases hfound : e.found? K.findings id with
    | none => exact .inr (.first hfound)
    | some a => exact .inl ⟨a, rfl, first_of_found hc hfound⟩
  · exact .inr hp

theorem ended_of_record (hc : e.claimed? id = some (d, c))
    (hr : Table.get? id s.records = some { c.pending id d.name with progress := p })
    (hlast : K.Last id d c p) : K.Ended id s where
  plain hnone := by
    rw [hc] at hnone
    cases hnone
  record hc' := by
    rw [hc] at hc'
    cases hc'
    exact ⟨p, hr, hlast⟩

/-- The invariant is about records and what the world knows; the log plays no part. -/
theorem Tracks.of_eq (h : K.Tracks s) (hrecords : t.records = s.records) (hrunning : t.running = s.running)
    (hplain : t.plain = s.plain) (hall : t.allAnalyzed = s.allAnalyzed)
    (hbefore : ∀ done, K.Before done s.world → K.Before done t.world)
    (hafter : K.After s.world → K.After t.world) : K.Tracks t := by
  have hhas : t.Has = s.Has := funext fun k => by rw [State.Has, State.Has, hrecords]
  refine ⟨hrunning.trans h.running, ?_, ?_, ?_, ?_, ?_⟩
  · rw [hplain]
    exact h.plain
  · intro id r hr
    rw [hrecords] at hr
    rw [hall]
    exact h.record hr
  · rw [hall, hhas]
    exact fun hopen => hbefore _ (h.before hopen)
  · rw [hall]
    exact fun hdone => hafter (h.after hdone)
  · rw [hall, hhas]
    exact h.all

theorem Tracks.remember (h : K.Tracks s) (m : Moment σ α ρ) : K.Tracks (s.remember m) :=
  ⟨h.running, h.plain, h.record, h.before, h.after, h.all⟩

end Contract

/-! ### One question -/

section Question

variable {K : Contract e} {s : State σ α ρ}

theorem analyze_tracks (h : K.Tracks s) (id : DeclarationId) :
    Runs (analyze e ask id) (analyze e ask id) s fun b t =>
      b = .ok () ∧ K.Tracks t ∧ (∀ k, s.Has k → t.Has k) ∧ ((e.claimed? id).isSome → t.Has id) := by
  unfold analyze
  refine .get_bind ?_
  split
  · next hstage => cases h.not_running hstage
  · next stage hne hstage =>
    refine .pure ⟨rfl, h, fun _ hk => hk, fun _ => ?_⟩
    obtain ⟨p, hp, -⟩ := Option.map_eq_some_iff.1 hstage
    obtain ⟨r, hr, -⟩ := Option.map_eq_some_iff.1 hp
    rw [State.Has, hr]
    rfl
  · next hstage =>
    have hnew : ¬ s.Has id := by
      rw [State.Has, Option.not_isSome_iff_eq_none]
      exact Option.map_eq_none_iff.1 (Option.map_eq_none_iff.1 hstage)
    split
    · next hplain =>
      refine .pure ⟨rfl, h, fun _ hk => hk, fun hsome => ?_⟩
      rw [h.plain id hplain] at hsome
      cases hsome
    · rw [analyzeNew_eq]
      cases hc : e.claimed? id with
      | none =>
        refine .update ⟨rfl, ⟨h.running, ?_, h.record, h.before, h.after, h.all⟩, fun _ hk => hk, nofun⟩
        intro j hj
        rcases List.mem_append.1 hj with hj | hj
        · exact h.plain j hj
        · rw [List.mem_singleton.1 hj]
          exact hc
      | some claimed =>
        obtain ⟨d, c⟩ := claimed
        -- a class without a record is new, so the whole program cannot have been analysed
        have hopen : s.allAnalyzed = false := by
          rw [← Bool.not_eq_true]
          exact fun hall => hnew (h.all hall id (by rw [hc]; rfl))
        refine (analyzeClaimed_puts hc hnew (h.before hopen)).mono ?_
        rintro b t ⟨rfl, w, hw, hput⟩
        rw [h.running] at hput
        refine ⟨rfl, h.put hc hput (.inl rfl) (fun _ => hw) (fun hall => ?_),
          fun k hk => (hput.has_iff k).2 (.inl hk), fun _ => ?_⟩
        · rw [hopen] at hall
          cases hall
        · exact (hput.has_iff id).2 (.inr rfl)

theorem analyzeEach_tracks (ds : List Declaration) (h : K.Tracks s) :
    Runs (analyzeEach e ask ds true) (analyzeEach e ask ds true) s fun b t =>
      b = .ok true ∧ K.Tracks t ∧ (∀ k, s.Has k → t.Has k) ∧
        ∀ d ∈ ds, d.isClass → (e.claimed? d.id).isSome → t.Has d.id := by
  induction ds generalizing s with
  | nil => exact .pure ⟨rfl, h, fun _ hk => hk, nofun⟩
  | cons d ds ih =>
    unfold analyzeEach
    split
    · next hclass =>
      refine (ih h).mono ?_
      rintro b t ⟨hb, ht, hgrows, hseen⟩
      refine ⟨hb, ht, hgrows, List.forall_mem_cons.2 ⟨fun hd => ?_, hseen⟩⟩
      simp [hd] at hclass
    · refine .get_bind ?_
      split
      · next hrunning => rw [h.running] at hrunning; cases hrunning
      · refine .bind (analyze_tracks h d.id) ?_ ?_
        · rintro _ t ⟨-, ht, hgrows, hd⟩
          refine (ih ht).mono ?_
          rintro b u ⟨hb, hu, hgrows', hseen⟩
          exact ⟨hb, hu, fun k hk => hgrows' k (hgrows k hk),
            List.forall_mem_cons.2 ⟨fun _ hsome => hgrows' _ (hd hsome), hseen⟩⟩
        · rintro err t ⟨hb, -⟩
          cases hb

theorem isClass_of_claimed? {id : DeclarationId} (h : (e.claimed? id).isSome) :
    ∃ d, e.program.declaration? id = some d ∧ d.isClass := by
  unfold claimed? at h
  split at h
  · next d c hd hc => exact ⟨d, Option.filter_eq_some_iff.1 hd⟩
  · cases h

theorem analyzeAll_tracks (hp : e.program.Numbered) (h : K.Tracks s) :
    Runs (analyzeAll e ask) (analyzeAll e ask) s fun b t =>
      b = .ok () ∧ K.Tracks t ∧ t.allAnalyzed := by
  unfold analyzeAll
  refine .get_bind ?_
  split
  · next hall => exact .pure ⟨rfl, h, hall⟩
  · refine .bind (analyzeEach_tracks _ h) ?_ ?_
    · rintro whole t ⟨hwhole, ht, -, hseen⟩
      cases hwhole
      have hall : ∀ id, (e.claimed? id).isSome → t.Has id := by
        intro id hid
        obtain ⟨d, hd, hclass⟩ := isClass_of_claimed? hid
        have hseen := hseen d (List.mem_of_getElem? hd) hclass
        rw [hp id d hd] at hseen
        exact hseen hid
      -- the world of the state before is closed, whether it was closed before or not
      have hafter : K.After t.world := by
        cases hopen : t.allAnalyzed with
        | false => exact K.close hall (ht.before hopen)
        | true => exact ht.after hopen
      refine .update ⟨rfl, ⟨ht.running, ht.plain, ?_, nofun, fun _ => hafter, fun _ => hall⟩, rfl⟩
      intro id r hr
      obtain ⟨d, c, p, hc, hr, hp⟩ := ht.record hr
      exact ⟨d, c, p, hc, hr, hp.imp_right fun hp => ⟨rfl, hp.2⟩⟩
    · rintro err t ⟨hb, -⟩
      cases hb

theorem resolve_tracks (hp : e.program.Numbered) (h : K.Tracks s) (id : DeclarationId) :
    Runs (resolve e ask id) (resolve e ask id) s fun b t =>
      b = .ok () ∧ K.Tracks t ∧ K.Ended id t ∧ t.allAnalyzed := by
  unfold resolve
  refine .bind (analyze_tracks h id) ?_ ?_
  · rintro _ t ⟨-, ht, -, -⟩
    refine .bind (analyzeAll_tracks hp ht) ?_ ?_
    · rintro _ u ⟨-, hu, hall⟩
      refine .get_bind ?_
      split
      · next hr =>
        refine .pure ⟨rfl, hu, ⟨fun _ => hr, fun hc => ?_⟩, hall⟩
        have hhas := hu.all hall id (by rw [hc]; rfl)
        rw [State.Has, hr] at hhas
        cases hhas
      · next r hr =>
        obtain ⟨d, c, p, hc, rfl, hp⟩ := hu.open_or_last hr
        rcases hp with ⟨a, hfound, rfl⟩ | hlast
        · refine (resolveNow_puts hc hfound (hu.after hall) hr rfl).mono ?_
          rintro b v ⟨rfl, w, q, hw, hq, hput⟩
          rw [hu.running] at hput
          refine ⟨rfl, hu.put hc hput (.inr ⟨hall, hq⟩) (fun hopen => ?_) (fun _ => hw),
            Contract.ended_of_record hc hput.self hq, by rw [hput.allAnalyzed]; exact hall⟩
          rw [hopen] at hall
          cases hall
        · have hdone : Runs (pure ()) (pure ()) u fun b t =>
              b = .ok () ∧ K.Tracks t ∧ K.Ended id t ∧ t.allAnalyzed :=
            .pure ⟨rfl, hu, Contract.ended_of_record hc hr hlast, hall⟩
          rcases hlast.stage hc with hs | hs | hs
          · simpa only [hs] using hdone
          · simpa only [hs] using hdone
          · simpa only [hs] using hdone
    · rintro err u ⟨hb, -⟩
      cases hb
  · rintro err t ⟨hb, -⟩
    cases hb

/-- What a question is answered with, given the state after it. -/
def State.said (s : State σ α ρ) : Query → Except Failure (Answer α ρ)
  | .analyze _ | .resolve _ | .analyzeAll => .ok .done
  | .role id => .ok (.role (s.role? id))
  | .resolution id => .ok (.resolution ((s.progress? id).bind (·.resolution?)))
  | .diagnostics id => .ok (.diagnostics (((s.progress? id).bind (·.diagnostics?)).getD []))
  | .analysis id =>
    match Table.get? id s.records with
    | none => .ok (.analysis none)
    | some r =>
      match r.progress.stage with
      | .errored => .error (.analysis r.className (r.progress.diagnostics?.getD []))
      | _ => .ok (.analysis r.progress.analysis?)

/-- What a question has done before it looks at the records. -/
def prepare (e : Engine σ α ρ) (ask : Query → State σ α ρ → Except Failure (Answer α ρ) × State σ α ρ) :
    Query → Run σ α ρ Unit
  | .analyzeAll => analyzeAll e ask
  | .analyze id | .role id => analyze e ask id
  | .resolve id | .analysis id | .resolution id | .diagnostics id => resolve e ask id

/-- Whether a question has the whole program analysed. -/
def analyzesAll : Query → Bool
  | .analyze _ | .role _ => false
  | .resolve _ | .analyzeAll | .analysis _ | .resolution _ | .diagnostics _ => true

/-- A question first has classes analysed or resolved, and then looks at the records. -/
theorem reply_eq (q : Query) : reply e ask q = prepare e ask q >>= fun _ t => (t.said q, t) := by
  cases q with
  | analyze | resolve | analyzeAll => rfl
  | role id =>
    simp only [reply, roleOf, bind_assoc]
    rfl
  | resolution id =>
    simp only [reply, resolutionOf, bind_assoc]
    rfl
  | diagnostics id =>
    simp only [reply, diagnosticsOf, bind_assoc]
    rfl
  | analysis id =>
    simp only [reply, analysisOf, bind_assoc]
    refine congrArg (prepare e ask (.analysis id) >>= ·) (funext fun _ => funext fun t => ?_)
    show ((match Table.get? id t.records with
      | none => pure none
      | some r =>
        match r.progress.stage with
        | .errored => throw (.analysis r.className (r.progress.diagnostics?.getD []))
        | _ => pure r.progress.analysis?) >>= fun a => pure (.analysis a) : Run σ α ρ (Answer α ρ)) t = _
    simp only [State.said]
    cases Table.get? id t.records with
    | none => rfl
    | some r =>
      dsimp only
      cases r.progress.stage <;> rfl

variable (ask) in
theorem reply_tracks (hp : e.program.Numbered) (h : K.Tracks s) (q : Query) :
    Runs (reply e ask q) (reply e ask q) s fun b t => b = t.said q ∧ K.Tracks t ∧ K.Serves t q := by
  have hprepare : Runs (prepare e ask q) (prepare e ask q) s fun b t =>
      b = .ok () ∧ K.Tracks t ∧ K.Serves t q := by
    cases q with
    | analyze id | role id =>
      refine (analyze_tracks h id).mono ?_
      rintro b t ⟨hb, ht, -, hhas⟩
      exact ⟨hb, ht, hhas⟩
    | analyzeAll =>
      refine (analyzeAll_tracks hp h).mono ?_
      rintro b t ⟨hb, ht, -⟩
      exact ⟨hb, ht, trivial⟩
    | resolve id | analysis id | resolution id | diagnostics id =>
      refine (resolve_tracks hp h id).mono ?_
      rintro b t ⟨hb, ht, hended, -⟩
      exact ⟨hb, ht, hended⟩
  rw [reply_eq]
  refine .bind hprepare ?_ ?_
  · rintro _ t ⟨-, ht, hserves⟩
    exact ⟨rfl, rfl, ht, hserves⟩
  · rintro err t ⟨hb, -⟩
    cases hb

/-! ### All questions -/

theorem answer_tracks (hp : e.program.Numbered) (h : K.Tracks s) (q : Query) :
    (e.answer q s).1 = (e.answer q s).2.said q ∧ K.Tracks (e.answer q s).2 ∧
      K.Serves (e.answer q s).2 q := by
  obtain ⟨-, hb, ht, hserves⟩ := reply_tracks (answerWithin e (e.depth - 1)) hp h q
  have hsaid : ∀ (t : State σ α ρ) m, (t.remember m).said q = t.said q := fun t m => by cases q <;> rfl
  have hserved : ∀ (t : State σ α ρ) m, K.Serves t q → K.Serves (t.remember m) q := fun t m hs => by
    cases q with
    | analyzeAll => trivial
    | analyze | role => exact hs
    | resolve | analysis | resolution | diagnostics => exact ⟨hs.plain, hs.record⟩
  exact ⟨hb.trans (hsaid _ _).symm, ht.remember _, hserved _ _ hserves⟩

theorem answers_tracks (hp : e.program.Numbered) (h : K.Tracks s) (qs : List Query) :
    K.Tracks (e.answers qs s) := by
  induction qs generalizing s with
  | nil => exact h
  | cons q qs ih => exact ih (answer_tracks hp h q).2.1

end Question

namespace Contract

variable {K : Contract e} {s t : State σ α ρ} {id : DeclarationId} {d : Declaration} {c : Claim σ α ρ}
  {p q : Progress α ρ}

/-- Two classes that were resolved alike, or not at all. -/
def Alike (K : Contract e) (id : DeclarationId) (r r' : Option ρ) : Prop :=
  r = none ∧ r' = none ∨
    ∃ a t t', e.found? K.findings id = some a ∧ K.Settles id a t ∧ K.Settles id a t' ∧
      r = t.resolution ∧ r' = t'.resolution

theorem first_resolution? (id : DeclarationId) (d : Declaration) (c : Claim σ α ρ) :
    (K.first id d c).resolution? = none := by
  unfold first Findings.progress
  split
  · split
    · rfl
    · split <;> rfl
  · rfl

theorem Last.agree (h : K.Last id d c p) (h' : K.Last id d c q) :
    p.stage = q.stage ∧ p.analysis? = q.analysis? ∧ p.diagnostics? = q.diagnostics? ∧
      K.Alike id p.resolution? q.resolution? := by
  cases h with
  | first h =>
    cases h' with
    | first h' => exact ⟨rfl, rfl, rfl, .inl ⟨first_resolution? .., first_resolution? ..⟩⟩
    | settled h' _ => cases h.symm.trans h'
  | settled h ht =>
    rename_i a t
    cases h' with
    | first h' => cases h.symm.trans h'
    | settled h' ht' =>
      rename_i a' t'
      cases h.symm.trans h'
      -- both phases found the same errors, so both failed or neither did
      have hds := K.diagnostics_eq ht ht'
      have hfaulty : t.isFaulty = t'.isFaulty := by rw [Settlement.isFaulty, hds, Settlement.isFaulty]
      unfold Settlement.progress
      rw [hfaulty]
      split
      · exact ⟨rfl, rfl, congrArg some hds, .inl ⟨rfl, rfl⟩⟩
      · exact ⟨rfl, rfl, rfl, .inr ⟨a, t, t', h, ht, ht', rfl, rfl⟩⟩

/-- Where a class is as far as it can come, all answers about it are the same, and so is its stage. -/
theorem Ended.agree (h : K.Ended id s) (h' : K.Ended id t) :
    s.said (.analysis id) = t.said (.analysis id) ∧ s.said (.diagnostics id) = t.said (.diagnostics id) ∧
      s.stage? id = t.stage? id ∧ K.Alike id ((s.progress? id).bind (·.resolution?))
        ((t.progress? id).bind (·.resolution?)) := by
  cases hc : e.claimed? id with
  | none =>
    simp [State.said, Scene.stage?, Scene.progress?, h.plain hc, h'.plain hc, Alike]
  | some claimed =>
    obtain ⟨d, c⟩ := claimed
    obtain ⟨p, hr, hp⟩ := h.record hc
    obtain ⟨q, hr', hq⟩ := h'.record hc
    obtain ⟨hstage, hanalysis, hdiagnostics, halike⟩ := hp.agree hq
    simp only [State.said, Scene.stage?, Scene.progress?, hr, hr', Option.map_some, Option.bind_some,
      hstage, hanalysis, hdiagnostics]
    exact ⟨trivial, trivial, trivial, halike⟩

theorem Tracks.role? (h : K.Tracks s) (hserves : K.Serves s (.role id)) :
    s.role? id = (e.claimed? id).map fun claimed => claimed.2.detected.role := by
  unfold State.role?
  cases hr : Table.get? id s.records with
  | none =>
    have hnone : ¬ (e.claimed? id).isSome := fun hsome => by
      have hhas := hserves hsome
      rw [State.Has, hr] at hhas
      cases hhas
    rw [Option.not_isSome_iff_eq_none.1 hnone]
    rfl
  | some r =>
    obtain ⟨d, c, p, hc, rfl, -⟩ := h.record hr
    rw [hc]
    rfl

/-- Two engines that have served a question give the same answer, unless it is about scopes. -/
theorem Tracks.said_agree {q : Query} (h : K.Tracks s) (h' : K.Tracks t) (hs : K.Serves s q)
    (ht : K.Serves t q) (hq : ∀ id, q ≠ .resolution id) : s.said q = t.said q := by
  cases q with
  | analyze | resolve | analyzeAll => rfl
  | role id => rw [State.said, State.said, h.role? hs, h'.role? ht]
  | analysis id => exact (hs.agree ht).1
  | diagnostics id => exact (hs.agree ht).2.1
  | resolution id => exact absurd rfl (hq id)

/-- **The order of questions plays no part.** Two engines start with worlds that know no class, and
different things are asked. Then every question about the role, the analysis or the diagnostics of a
class has the same answer in both, and the class comes to the same stage. Its resolutions are two of
those that the contract allows, or both are missing. -/
theorem answers_independent (K : Contract e) (hp : e.program.Numbered) {w w' : σ}
    (hw : K.Before (fun _ => False) w) (hw' : K.Before (fun _ => False) w') (log log' : Log)
    (qs qs' : List Query) (id : DeclarationId) {s s' : State σ α ρ}
    (hs : s = e.answers qs { world := w, log }) (hs' : s' = e.answers qs' { world := w', log := log' }) :
    (e.answer (.role id) s).1 = (e.answer (.role id) s').1 ∧
    (e.answer (.analysis id) s).1 = (e.answer (.analysis id) s').1 ∧
    (e.answer (.diagnostics id) s).1 = (e.answer (.diagnostics id) s').1 ∧
    (e.answer (.resolve id) s).2.stage? id = (e.answer (.resolve id) s').2.stage? id ∧
    ∃ r r', (e.answer (.resolution id) s).1 = .ok (.resolution r) ∧
      (e.answer (.resolution id) s').1 = .ok (.resolution r') ∧ K.Alike id r r' := by
  have h : K.Tracks s := hs ▸ answers_tracks hp (tracks_new hw log) qs
  have h' : K.Tracks s' := hs' ▸ answers_tracks hp (tracks_new hw' log') qs'
  have hanswer : ∀ q, (∀ id, q ≠ .resolution id) → (e.answer q s).1 = (e.answer q s').1 := by
    intro q hq
    obtain ⟨heq, ht, hserves⟩ := answer_tracks hp h q
    obtain ⟨heq', ht', hserves'⟩ := answer_tracks hp h' q
    rw [heq, heq']
    exact ht.said_agree ht' hserves hserves' hq
  refine ⟨hanswer _ nofun, hanswer _ nofun, hanswer _ nofun, ?_, ?_⟩
  · obtain ⟨-, -, hended⟩ := answer_tracks hp h (.resolve id)
    obtain ⟨-, -, hended'⟩ := answer_tracks hp h' (.resolve id)
    exact (hended.agree hended').2.2.1
  · obtain ⟨heq, -, hended⟩ := answer_tracks hp h (.resolution id)
    obtain ⟨heq', -, hended'⟩ := answer_tracks hp h' (.resolution id)
    exact ⟨_, _, heq, heq', (hended.agree hended').2.2.2⟩

end Contract

end ComponentAtlas.Engine

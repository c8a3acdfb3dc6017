import ComponentAtlas.Proofs.Analysis.Lifecycle

/-!
# Handlers that ask the engine

Handlers may ask anything while they work, and the engine may then enter further handlers. Here two
engines are run side by side that answer the questions of handlers within different bounds. As long
as the bounds are large enough they do the same, and every step keeps the invariant.

* `Runs`: two computations do the same from a state, and the outcome satisfies a condition;
* `Agree`: two ways to answer questions do the same in all sound states in which enough phases were
  entered;
* `analyze_runs`, `analyzeAll_runs`, `resolve_runs`, `reply_runs`: one question, given the answers to
  those of the handlers below;
* `answerWithin_agree`: all questions, by induction on the bound. Every handler that is entered uses
  up one of the phases that can be entered at all, so the bound is never reached;
* `answers_lawful`: whatever is asked one after the other, no move is refused, every moment of the
  history is lawful, and no phase is entered twice.
-/

namespace ComponentAtlas.Engine

open ComponentAtlas.Script

variable {σ α ρ β γ : Type}

/-! ### Computations side by side -/

/-- Two computations do the same from a state, and what they do satisfies a condition. -/
def Runs (x y : Run σ α ρ β) (s : State σ α ρ) (Q : Except Failure β → State σ α ρ → Prop) : Prop :=
  x s = y s ∧ Q (x s).1 (x s).2

namespace Runs

variable {x y : Run σ α ρ β} {f g : β → Run σ α ρ γ} {s : State σ α ρ}
  {P Q : Except Failure β → State σ α ρ → Prop} {R : Except Failure γ → State σ α ρ → Prop}

theorem mono (h : Runs x y s P) (hPQ : ∀ b t, P b t → Q b t) : Runs x y s Q := ⟨h.1, hPQ _ _ h.2⟩

theorem bind (hx : Runs x y s P) (hok : ∀ b t, P (.ok b) t → Runs (f b) (g b) t R)
    (herr : ∀ err t, P (.error err) t → R (.error err) t) : Runs (x >>= f) (y >>= g) s R := by
  obtain ⟨heq, hP⟩ := hx
  have hl : (x >>= f) s = ExceptT.bindCont f (x s).1 (x s).2 := rfl
  have hr : (y >>= g) s = ExceptT.bindCont g (y s).1 (y s).2 := rfl
  rw [← heq] at hr
  rcases hxs : x s with ⟨b | b, t⟩ <;> rw [hxs] at hl hr hP
  · exact ⟨hl.trans hr.symm, by rw [hl]; exact herr b t hP⟩
  · obtain ⟨h1, h2⟩ := hok b t hP
    exact ⟨hl.trans (h1.trans hr.symm), by rw [hl]; exact h2⟩

theorem pure {b : β} (h : Q (.ok b) s) : Runs (Pure.pure b) (Pure.pure b) s Q := ⟨rfl, h⟩

theorem throw {err : Failure} (h : Q (.error err) s) :
    Runs (MonadExcept.throw err) (MonadExcept.throw err) s Q := ⟨rfl, h⟩

theorem update {f : State σ α ρ → State σ α ρ} {Q : Except Failure Unit → State σ α ρ → Prop}
    (h : Q (.ok ()) (f s)) : Runs (Engine.update f) (Engine.update f) s Q := ⟨rfl, h⟩

theorem update_bind {f : State σ α ρ → State σ α ρ} {k k' : Unit → Run σ α ρ γ}
    (h : Runs (k ()) (k' ()) (f s) R) : Runs (Engine.update f >>= k) (Engine.update f >>= k') s R := h

theorem get_bind {k k' : State σ α ρ → Run σ α ρ γ} (h : Runs (k s) (k' s) s R) :
    Runs (get >>= k) (get >>= k') s R := h

end Runs

/-! ### One question -/

/-- Two ways to answer questions do the same, and keep the invariant, in all sound states in which at
least `n` phases were entered. -/
def Agree (e : Engine σ α ρ) (n : ℕ)
    (ask ask' : Query → State σ α ρ → Except Failure (Answer α ρ) × State σ α ρ) : Prop :=
  ∀ q s, s.Sound e → n ≤ s.entries.length →
    ask q s = ask' q s ∧ (ask q s).2.Sound e ∧ s.Keeps (ask q s).2

/-- The outcome of a computation that keeps the invariant and ends with a given result. -/
def Ends (e : Engine σ α ρ) (s : State σ α ρ) (result : Except Failure β) (b : Except Failure β)
    (t : State σ α ρ) : Prop :=
  t.Sound e ∧ s.Keeps t ∧ b = result

section Step

variable {e : Engine σ α ρ} {n : ℕ}
  {ask ask' : Query → State σ α ρ → Except Failure (Answer α ρ) × State σ α ρ}
  {s : State σ α ρ} {id : DeclarationId} {p : Progress α ρ}

theorem perform_agree (hask : e.Agree n ask ask') (r : Routine σ α ρ β) (hs : s.Sound e)
    (hn : n ≤ s.entries.length) :
    perform ask r s = perform ask' r s ∧ (perform ask r s).2.Sound e ∧ s.Keeps (perform ask r s).2 := by
  induction r generalizing s with
  | done b => exact ⟨rfl, hs, .refl s⟩
  | read next ih => exact ih s.world hs hn
  | write world next ih =>
    obtain ⟨ih1, ih2, ih3⟩ := ih (s := { s with world }) (hs.congr rfl rfl rfl) hn
    exact ⟨ih1, ih2, ih3.running, ih3.progress, ih3.history⟩
  | log level message next ih =>
    obtain ⟨ih1, ih2, ih3⟩ := ih (s := s.note level message) (hs.congr rfl rfl rfl) hn
    exact ⟨ih1, ih2, ih3.running, ih3.progress, ih3.history⟩
  | look next ih => exact ih s.view hs hn
  | query q next ih =>
    obtain ⟨heq, hsound, hkeeps⟩ := hask q s hs hn
    obtain ⟨ih1, ih2, ih3⟩ := ih (ask q s).1 hsound (hn.trans hkeeps.entries_length_le)
    simp only [perform, ← heq]
    exact ⟨ih1, ih2, hkeeps.trans ih3⟩

/-- A handler is entered for a class that has come far enough, and for the first time. -/
theorem handle_runs (hask : e.Agree (n + 1) ask ask') (hs : s.Sound e) (hn : n ≤ s.entries.length)
    {phase : Phase} (hp : s.progress? id = some p) (hf : phase.fits p.stage)
    (hnew : (phase, id) ∉ s.entries) (r : Routine σ α ρ β) :
    Runs (handle ask phase id r) (handle ask' phase id r) s fun b t =>
      t.Sound e ∧ (s.remember (.entered phase id s.toScene)).Keeps t ∧ ∃ v, b = .ok v := by
  have hlen : n + 1 ≤ (s.remember (.entered phase id s.toScene)).entries.length :=
    Nat.succ_le_succ hn
  obtain ⟨heq, hsound, hkeeps⟩ := perform_agree hask r (hs.remember_entered hp hf hnew) hlen
  refine ⟨?_, hsound, hkeeps, _, rfl⟩
  simp only [handle, heq]

/-- A phase begins and its handler runs. Afterwards the class is where it was when the handler was
entered, and once the phase is ended the running declarations are as they were before it began. -/
theorem phase_runs (hask : e.Agree (n + 1) ask ask') (hs : s.Sound e) (hn : n ≤ s.entries.length)
    {t : State σ α ρ} (hid : id < e.program.declarations.length)
    (hm : s.Moves t id p (s.running ++ [id])) (hc : p.Consistent) (hrun : p.stage.isRunning)
    (hnot : id ∉ s.running) (hfits : ∀ phase, (phase, id) ∈ s.entries → phase.fits p.stage)
    {phase : Phase} (hf : phase.fits p.stage) (hnew : (phase, id) ∉ s.entries) (r : Routine σ α ρ β) :
    Runs (handle ask phase id r) (handle ask' phase id r) t fun b u =>
      (u.Sound e ∧ u.running = s.running ++ [id] ∧ u.Moves u.leave id p s.running ∧
        ∀ v q, u.Moves v id q s.running → s.Keeps v) ∧ ∃ x, b = .ok x := by
  have ht : t.Sound e := hs.begin hid hm hc hrun hnot hfits
  have he : t.entries = s.entries := by rw [State.entries, hm.history, State.entries]
  refine (handle_runs hask ht (by rw [he]; exact hn) hm.self hf (by rw [he]; exact hnew) r).mono ?_
  rintro b u ⟨hu, hk, hb⟩
  have hmem : id ∈ t.running := by simp [hm.running]
  have hr : u.running = s.running ++ [id] := hk.running.trans hm.running
  have hp : u.progress? id = some p := (hk.progress id hmem).trans hm.self
  exact ⟨⟨hu, hr, State.moves_leave hp hr, fun v q hv => .round hnot hm hk hv⟩, hb⟩

theorem conclude_runs (hp : s.progress? id = some p) (hc : p.Consistent) (hstage : p.stage = .analyzing)
    (name : String) (f : Findings α) :
    Runs (conclude id name f) (conclude id name f) s fun b t => ∃ q : Progress α ρ,
      s.Moves t id q s.running ∧ q.Consistent ∧ q.stage.isRunning = false ∧
        (b = .ok none ∨ ∃ a, b = .ok (some a) ∧ q.stage = .analyzed) := by
  unfold conclude
  split
  · obtain ⟨q, hq, hqc, hqs⟩ :=
      Progress.fail_consistent (p := p) (.inr (.inl hstage)) f.diagnostics
    exact .update_bind <| .update_bind <| .pure
      ⟨q, ((State.moves_refl hp).note _ _).move hq, hqc, by rw [hqs]; rfl, .inl rfl⟩
  · split
    · next a _ =>
      obtain ⟨q, hq, hqc, hqs⟩ := hc.analyze hstage a
      exact .update_bind <| .update_bind <| .pure
        ⟨q, ((State.moves_refl hp).move hq).note _ _, hqc, by rw [hqs]; rfl, .inr ⟨a, rfl, hqs⟩⟩
    · obtain ⟨q, hq, hqc, hqs⟩ := hc.skip hstage
      exact .update_bind <| .update_bind <| .pure
        ⟨q, ((State.moves_refl hp).move hq).note _ _, hqc, by rw [hqs]; rfl, .inl rfl⟩

theorem firstPhase_runs (hask : e.Agree (n + 1) ask ask') {t : State σ α ρ} (hs : s.Sound e)
    (hn : n ≤ s.entries.length) (hid : id < e.program.declarations.length)
    (hnone : s.progress? id = none) (hm : s.Moves t id .pending s.running) (name : String)
    (c : Claim σ α ρ) :
    Runs (firstPhase ask id name c) (firstPhase ask' id name c) t (Ends e s (.ok ())) := by
  have hfresh := hs.notMem_entries_of_new hnone
  have hnot : id ∉ s.running := hs.orderly.notMem_running (by simp [Scene.stage?, hnone])
  obtain ⟨q, hq, hqc, hqs⟩ := (Progress.consistent_pending (α := α) (ρ := ρ)).start rfl
  unfold firstPhase
  refine .update_bind (.update_bind (.update_bind (.bind (phase_runs hask hs hn hid
    ((hm.move hq).note _ _).enter hqc (by rw [hqs]; rfl) hnot (fun _ h => absurd h (hfresh _)) rfl
    (hfresh .analyze) _) ?_ ?_)))
  · rintro findings u ⟨⟨hu, hr, hleave, hkeeps⟩, -⟩
    have honly : ∀ phase, (phase, id) ∈ u.entries → phase = .analyze := fun phase h =>
      hu.eq_analyze_of_mem hleave.self hqs h
    refine .update_bind (.bind (conclude_runs hleave.self hqc hqs name findings) ?_ ?_)
    · rintro b v ⟨q', hv, hqc', hrun, hb⟩
      rw [hleave.running] at hv
      have hv := hleave.trans hv
      have hvs : v.Sound e := hu.finish hid hr hv hqc' hrun fun phase h => by rw [honly phase h]; rfl
      have hk : s.Keeps v := hkeeps v q' hv
      rcases hb with hb | ⟨a, hb, hq'⟩
      · cases hb
        exact .pure ⟨hvs, hk, rfl⟩
      · cases hb
        have hnew : (.register, id) ∉ v.entries := by
          rw [State.entries, hv.history]
          intro h
          cases honly _ h
        have hn' := hn.trans hk.entries_length_le
        refine (handle_runs hask hvs hn' hv.self (by rw [hq']; rfl) hnew _).mono ?_
        rintro _ w ⟨hw, hk', x, rfl⟩
        exact ⟨hw, hk.trans hk'.of_remember, rfl⟩
    · rintro err v ⟨_, -, -, -, hb | ⟨_, hb, -⟩⟩ <;> cases hb
  · rintro err u ⟨-, _, hb⟩
    cases hb

theorem analyzeNew_runs (hask : e.Agree (n + 1) ask ask') (hs : s.Sound e) (hn : n ≤ s.entries.length)
    (hnone : s.progress? id = none) :
    Runs (analyzeNew e ask id) (analyzeNew e ask' id) s (Ends e s (.ok ())) := by
  unfold analyzeNew
  split
  · next d c hd hc =>
    have hid : id < e.program.declarations.length :=
      (List.getElem?_eq_some_iff.1 (Option.filter_eq_some_iff.1 hd).1).1
    have hnot : id ∉ s.running := hs.orderly.notMem_running (by simp [Scene.stage?, hnone])
    have hput := State.moves_put s id (c.pending id d.name)
    refine .update_bind ?_
    split
    · obtain ⟨q, hq, hqc, hqs⟩ := Progress.fail_consistent (p := (.pending : Progress α ρ)) (.inl rfl)
        [collision d c.detected c.collisions]
      refine .update_bind (.update ⟨?_, ((hput.move hq).note _ _).keeps hnot, rfl⟩)
      exact hs.settle hid ((hput.move hq).note _ _) hqc (by rw [hqs]; rfl) hnot fun phase h =>
        absurd h (hs.notMem_entries_of_new hnone phase)
    · exact firstPhase_runs hask hs hn hid hnone hput _ _
  · exact .update ⟨hs.congr rfl rfl rfl, ⟨rfl, fun _ _ => rfl, List.suffix_rfl⟩, rfl⟩

/-- A class that is being analysed cannot be analysed again; any other can, or was. -/
theorem analyze_runs (hask : e.Agree (n + 1) ask ask') (hs : s.Sound e) (hn : n ≤ s.entries.length)
    (id : DeclarationId) :
    Runs (analyze e ask id) (analyze e ask' id) s (Ends e s
      (if s.stage? id = some .analyzing then .error (e.reentrancy s.toScene id) else .ok ())) := by
  unfold analyze
  refine .get_bind ?_
  split
  · next hstage => exact .throw ⟨hs, .refl s, by rw [if_pos hstage]⟩
  · next stage hne hstage =>
    refine .pure ⟨hs, .refl s, ?_⟩
    rw [if_neg fun h => hne (Option.some.inj (hstage.symm.trans h))]
  · next hstage =>
    have hopen : ¬ s.stage? id = some .analyzing := by simp [hstage]
    simp only [if_neg hopen]
    split
    · exact .pure ⟨hs, .refl s, rfl⟩
    · exact analyzeNew_runs hask hs hn (Option.map_eq_none_iff.1 hstage)

theorem analyzeEach_runs (hask : e.Agree (n + 1) ask ask') (ds : List Declaration) (whole : Bool)
    (hs : s.Sound e) (hn : n ≤ s.entries.length) :
    Runs (analyzeEach e ask ds whole) (analyzeEach e ask' ds whole) s fun b t =>
      t.Sound e ∧ s.Keeps t ∧ ∃ w, b = .ok w := by
  induction ds generalizing whole s with
  | nil => exact .pure ⟨hs, .refl s, whole, rfl⟩
  | cons d ds ih =>
    unfold analyzeEach
    split
    · exact ih whole hs hn
    · refine .get_bind ?_
      split
      · exact ih false hs hn
      · next hd =>
        -- the class is not being worked on, so its analysis cannot fail
        have hstage : s.stage? d.id ≠ some .analyzing := fun h =>
          hd ((hs.orderly.mem_running d.id).2 (by rw [h]; rfl))
        refine .bind (analyze_runs hask hs hn d.id) ?_ ?_
        · rintro _ t ⟨ht, hk, -⟩
          refine (ih whole ht (hn.trans hk.entries_length_le)).mono ?_
          rintro b u ⟨hu, hk', hb⟩
          exact ⟨hu, hk.trans hk', hb⟩
        · rintro err t ⟨-, -, hb⟩
          rw [if_neg hstage] at hb
          cases hb

theorem analyzeAll_runs (hask : e.Agree (n + 1) ask ask') (hs : s.Sound e) (hn : n ≤ s.entries.length) :
    Runs (analyzeAll e ask) (analyzeAll e ask') s (Ends e s (.ok ())) := by
  unfold analyzeAll
  refine .get_bind ?_
  split
  · exact .pure ⟨hs, .refl s, rfl⟩
  · refine .bind (analyzeEach_runs hask _ true hs hn) ?_ ?_
    · rintro whole t ⟨ht, hk, -⟩
      split
      · exact .update ⟨ht.congr rfl rfl rfl, ⟨hk.running, hk.progress, hk.history⟩, rfl⟩
      · exact .pure ⟨ht, hk, rfl⟩
    · rintro err t ⟨-, -, _, hb⟩
      cases hb

theorem resolveNow_runs (hask : e.Agree (n + 1) ask ask') (hs : s.Sound e) (hn : n ≤ s.entries.length)
    {r : Record σ α ρ} (hr : Table.get? id s.records = some r) (hstage : r.progress.stage = .analyzed)
    (a : α) : Runs (resolveNow ask id r a) (resolveNow ask' id r a) s (Ends e s (.ok ())) := by
  have hp : s.progress? id = some r.progress := by rw [Scene.progress?, hr]; rfl
  have hnot : id ∉ s.running := hs.orderly.notMem_running fun stage h => by
    rw [Scene.stage?_of_progress? hp, hstage] at h
    cases h
    rfl
  have hfresh : (.resolve, id) ∉ s.entries := fun h => by
    obtain ⟨q, hq, hf⟩ := hs.fits h
    rw [hp] at hq
    cases hq
    rw [hstage] at hf
    cases hf
  have hid := hs.inside hp
  obtain ⟨q, hq, hqc, hqs⟩ := (hs.orderly.consistent hp).resume hstage
  unfold resolveNow
  refine .update_bind (.update_bind (.bind (phase_runs hask hs hn hid
    ((State.moves_refl hp).move hq).enter hqc (by rw [hqs]; rfl) hnot
    (fun _ _ => Phase.fits_of_late (by simp [hqs]) _) (Phase.fits_of_late (by simp [hqs]) _)
    hfresh _) ?_ ?_))
  · rintro settled u ⟨⟨hu, hr, hleave, hkeeps⟩, -⟩
    -- the class has failed or is resolved, and both are late enough for every phase
    have hend : ∀ v q', u.Moves v id q' s.running → q'.Consistent →
        q'.stage = .errored ∨ q'.stage = .resolved → Ends e s (.ok ()) (.ok ()) v := by
      intro v q' hv hqc' hlate
      refine ⟨hu.finish hid hr hv hqc' ?_ fun phase _ => ?_, hkeeps v q' hv, rfl⟩
      · rcases hlate with h | h <;> rw [h] <;> rfl
      · rcases hlate with h | h <;> exact Phase.fits_of_late (by simp [h]) phase
    refine .update_bind ?_
    split
    · obtain ⟨q', hq', hqc', hqs'⟩ :=
        Progress.fail_consistent (p := q) (by simp [hqs]) settled.diagnostics
      exact .update_bind (.update (hend _ q' ((hleave.note _ _).move hq') hqc' (.inl hqs')))
    · obtain ⟨q', hq', hqc', hqs'⟩ := hqc.resolve hqs settled.resolution
      exact .update_bind (.update (hend _ q' ((hleave.move hq').note _ _) hqc' (.inr hqs')))
  · rintro err u ⟨-, _, hb⟩
    cases hb

/-- A class that is being worked on cannot be resolved; any other can, or was. -/
theorem resolve_runs (hask : e.Agree (n + 1) ask ask') (hs : s.Sound e) (hn : n ≤ s.entries.length)
    (id : DeclarationId) :
    Runs (resolve e ask id) (resolve e ask' id) s (Ends e s
      (if (s.stage? id).any Stage.isRunning then .error (e.reentrancy s.toScene id) else .ok ())) := by
  unfold resolve
  refine .bind (analyze_runs hask hs hn id) ?_ ?_
  · rintro _ t ⟨ht, hk, -⟩
    refine .bind (analyzeAll_runs hask ht (hn.trans hk.entries_length_le)) ?_ ?_
    · rintro _ u ⟨hu, hk', -⟩
      have hk := hk.trans hk'
      rw [← hk.any_isRunning hs hu, ← e.reentrancy_congr hk.running]
      have hn := hn.trans hk.entries_length_le
      refine .get_bind ?_
      split
      · next hr =>
        refine .pure ⟨hu, hk, ?_⟩
        simp [Scene.stage?, Scene.progress?, hr]
      · next r hr =>
        have hp : u.progress? id = some r.progress := by rw [Scene.progress?, hr]; rfl
        rw [Scene.stage?_of_progress? hp, Option.any_some]
        cases hstage : r.progress.stage with
        | analyzed =>
          obtain ⟨a, ha⟩ :=
            Option.isSome_iff_exists.1 ((hu.orderly.consistent hp).analysis.2 (.inl hstage))
          rw [ha]
          refine (resolveNow_runs hask hu hn hr hstage a).mono ?_
          rintro b v ⟨hv, hk', hb⟩
          exact ⟨hv, hk.trans hk', hb⟩
        | analyzing => exact .throw ⟨hu, hk, rfl⟩
        | resolving => exact .throw ⟨hu, hk, rfl⟩
        | pending => exact .pure ⟨hu, hk, rfl⟩
        | resolved => exact .pure ⟨hu, hk, rfl⟩
        | errored => exact .pure ⟨hu, hk, rfl⟩
        | skipped => exact .pure ⟨hu, hk, rfl⟩
    · rintro err u ⟨-, -, hb⟩
      cases hb
  · rintro err t ⟨ht, hk, hb⟩
    split at hb
    · next hstage =>
      refine ⟨ht, hk, ?_⟩
      rw [hb, hstage]
      rfl
    · cases hb

/-- A question that first has a class analysed or resolved, and then looks at the records. -/
theorem question_runs {x y : Run σ α ρ Unit} {k : Unit → Run σ α ρ (Answer α ρ)}
    {c : Prop} [Decidable c] {q : Query}
    (hx : Runs x y s (Ends e s (if c then .error (e.reentrancy s.toScene id) else .ok ())))
    (hq : circle? s.toScene q = if c then some id else none)
    (hk : ∀ t, Runs (k ()) (k ()) t fun b u => u = t ∧ (∀ trail, b ≠ .error (.reentrancy trail)) ∧
      (isCommand q → b = .ok .done)) :
    Runs (x >>= k) (y >>= k) s fun b t => t.Sound e ∧ s.Keeps t ∧ e.Answers q s.toScene b := by
  refine .bind hx ?_ ?_
  · rintro _ t ⟨ht, hkeeps, hb⟩
    have hc : ¬ c := fun hc => by rw [if_pos hc] at hb; cases hb
    rw [if_neg hc] at hq
    refine (hk t).mono ?_
    rintro b _ ⟨rfl, hopen, hcommand⟩
    refine ⟨ht, hkeeps, ⟨fun h => ?_, fun _ => hopen, fun _ => hcommand⟩⟩
    rw [hq] at h
    cases h
  · rintro err t ⟨ht, hkeeps, hb⟩
    have hc : c := by_contra fun hc => by rw [if_neg hc] at hb; cases hb
    rw [if_pos hc] at hq hb
    cases hb
    have hnone : ¬ circle? s.toScene q = none := by simp [hq]
    refine ⟨ht, hkeeps, ⟨fun h => ?_, fun h => absurd h hnone, fun h => absurd h hnone⟩⟩
    rw [hq] at h
    cases h
    rfl

/-- One question, given the answers to those of the handlers. -/
theorem reply_runs (hask : e.Agree (n + 1) ask ask') (hs : s.Sound e) (hn : n ≤ s.entries.length)
    (q : Query) :
    Runs (reply e ask q) (reply e ask' q) s fun b t =>
      t.Sound e ∧ s.Keeps t ∧ e.Answers q s.toScene b := by
  have hdone : ∀ q (t : State σ α ρ), Runs (pure .done) (pure .done) t fun b u => u = t ∧
      (∀ trail, b ≠ .error (.reentrancy trail)) ∧ (isCommand q → b = .ok (.done : Answer α ρ)) :=
    fun q t => .pure ⟨rfl, by simp, fun _ => rfl⟩
  cases q with
  | analyze id => exact question_runs (analyze_runs hask hs hn id) rfl (hdone _)
  | resolve id => exact question_runs (resolve_runs hask hs hn id) rfl (hdone _)
  | analyzeAll =>
    have hall : Runs (analyzeAll e ask) (analyzeAll e ask') s
        (Ends e s (if False then .error (e.reentrancy s.toScene 0) else .ok ())) := by
      simpa using analyzeAll_runs hask hs hn
    exact question_runs hall rfl (hdone _)
  | role id =>
    simp only [reply, roleOf, bind_assoc]
    exact question_runs (analyze_runs hask hs hn id) rfl fun t =>
      .get_bind (.pure ⟨rfl, by simp, by simp [isCommand]⟩)
  | resolution id =>
    simp only [reply, resolutionOf, bind_assoc]
    exact question_runs (resolve_runs hask hs hn id) rfl fun t =>
      .get_bind (.pure ⟨rfl, by simp, by simp [isCommand]⟩)
  | diagnostics id =>
    simp only [reply, diagnosticsOf, bind_assoc]
    exact question_runs (resolve_runs hask hs hn id) rfl fun t =>
      .get_bind (.pure ⟨rfl, by simp, by simp [isCommand]⟩)
  | analysis id =>
    simp only [reply, analysisOf, bind_assoc]
    refine question_runs (resolve_runs hask hs hn id) rfl fun t => .get_bind ?_
    refine .bind (P := fun b u => u = t ∧ ∀ trail, b ≠ .error (.reentrancy trail)) ?_ ?_ ?_
    · split
      · exact .pure ⟨rfl, by simp⟩
      · split
        · exact .throw ⟨rfl, by simp⟩
        · exact .pure ⟨rfl, by simp⟩
    · rintro a _ ⟨rfl, -⟩
      exact .pure ⟨rfl, by simp, by simp [isCommand]⟩
    · rintro err _ ⟨rfl, herr⟩
      exact ⟨rfl, fun trail h => herr trail (by rw [Except.error.inj h]), by simp [isCommand]⟩

end Step

/-! ### All questions -/

/-- Within two bounds that are large enough, questions are answered alike. -/
theorem answerWithin_agree (e : Engine σ α ρ) (k k' n : ℕ)
    (hk : 3 * e.program.declarations.length < n + k)
    (hk' : 3 * e.program.declarations.length < n + k') :
    e.Agree n (answerWithin e k) (answerWithin e k') := by
  induction k generalizing k' n with
  | zero =>
    intro q s hs hn
    have := hs.entries_length_le
    omega
  | succ k ih =>
    intro q s hs hn
    cases k' with
    | zero =>
      have := hs.entries_length_le
      omega
    | succ k' =>
      have hask := ih k' (n + 1) (by omega) (by omega)
      obtain ⟨heq, ht, hkeeps, ha⟩ := reply_runs hask hs hn q
      simp only [answerWithin, ← heq]
      refine ⟨trivial, ht.remember_answered hs hkeeps ha, hkeeps.running, hkeeps.progress, ?_⟩
      exact hkeeps.history.trans (List.suffix_cons _ _)

/-- The state after some questions, one after the other, each answered within a bound. -/
def answersWithin (e : Engine σ α ρ) (bound : ℕ) (qs : List Query) (s : State σ α ρ) : State σ α ρ :=
  qs.foldl (fun s q => (e.answerWithin bound q s).2) s

/-- The state after some questions, one after the other. -/
def answers (e : Engine σ α ρ) : List Query → State σ α ρ → State σ α ρ := e.answersWithin e.depth

theorem sound_new (e : Engine σ α ρ) (world : σ) (log : Log) :
    State.Sound e { world, log } where
  orderly := ⟨nofun, List.nodup_nil, fun id => by simp [Scene.stage?, Scene.progress?]⟩
  refusals := rfl
  inside := nofun
  nodup := List.nodup_nil
  fits := nofun
  lawful := nofun

theorem answers_sound {e : Engine σ α ρ} {s : State σ α ρ} (hs : s.Sound e) (qs : List Query)
    {bound : ℕ} (hbound : e.depth ≤ bound) :
    (e.answers qs s).Sound e ∧ e.answersWithin bound qs s = e.answers qs s := by
  induction qs generalizing s with
  | nil => exact ⟨hs, rfl⟩
  | cons q qs ih =>
    have hlt : 3 * e.program.declarations.length < 0 + e.depth := by unfold depth; omega
    obtain ⟨heq, ht, -⟩ := answerWithin_agree e e.depth bound 0 hlt (by omega) q s hs (Nat.zero_le _)
    obtain ⟨ih1, ih2⟩ := ih ht
    refine ⟨ih1, ?_⟩
    rw [answersWithin, List.foldl_cons, ← heq]
    exact ih2

/-- **The life of an annotated class.** Handlers may ask anything while they work. Whatever is asked
one after the other, from a new engine:

* no move is refused;
* whenever a handler is entered or a question answered, also one of a handler, every class has
  exactly the results of its stage, and the declarations that handlers are working on are, without
  repetition, those whose stage is a running one;
* every phase is entered at most once for every class;
* a question fails with a circle exactly when it needs a class that is being worked on, a command fails
  in no other way, and the command to analyse everything never fails;
* the bound on the nesting of handlers plays no part. -/
theorem answers_lawful (e : Engine σ α ρ) (world : σ) (log : Log) (qs : List Query) :
    (e.answers qs { world, log }).refusals = [] ∧
    (e.answers qs { world, log }).toScene.Orderly ∧
    (∀ phase id scene, .entered phase id scene ∈ (e.answers qs { world, log }).history →
      scene.Orderly) ∧
    (∀ q before answer after, .answered q before answer after ∈ (e.answers qs { world, log }).history →
      before.Orderly ∧ after.Orderly ∧ after.running = before.running ∧ e.Answers q before answer) ∧
    (e.answers qs { world, log }).entries.Nodup ∧
    ∀ bound ≥ e.depth, e.answersWithin bound qs { world, log } = e.answers qs { world, log } := by
  obtain ⟨h, -⟩ := answers_sound (e.sound_new world log) qs le_rfl
  exact ⟨h.refusals, h.orderly, fun _ _ _ hm => h.lawful _ hm, fun _ _ _ _ hm => h.lawful _ hm, h.nodup,
    fun _ hbound => (answers_sound (e.sound_new world log) qs hbound).2⟩

end ComponentAtlas.Engine

import ComponentAtlas.Proofs.Analysis.Independence
import ComponentAtlas.Proofs.Roles.Knowledge

/-!
# The records of the engine

The engine keeps one record for each class that was looked at, and lists recorded classes in the order
of the program.

* `Engine.State.Keyed`: no class has two records; `Engine.answer_keyed`: no question changes that;
* `Engine.answer_analyzesAll`: after some questions the whole program is analysed;
* `Engine.Contract.Tracks.recorded_eq`: then the classes with a role are listed, whatever came of them;
* `Engine.Contract.Last.exists_diagnostics`, `Engine.Contract.Last.exists_analysis`: what a record holds
  in the end.
-/

namespace ComponentAtlas.Engine

open ComponentAtlas.Script

variable {σ α ρ β γ : Type} {e : Engine σ α ρ}

/-! ### One record for each class -/

/-- No class has two records. -/
def State.Keyed (s : State σ α ρ) : Prop := (s.records.map (·.1)).Nodup

theorem State.Keyed.record {s : State σ α ρ} (h : s.Keyed) (r : Record σ α ρ) : (s.record r).Keyed :=
  Table.nodup_keys_put h _ _

theorem State.Keyed.move {s : State σ α ρ} (h : s.Keyed) (id : DeclarationId)
    (f : Progress α ρ → Except IllegalMove (Progress α ρ)) : (s.move id f).Keyed := by
  unfold State.move
  split
  · exact h
  · split
    · exact Table.nodup_keys_put h _ _
    · exact h

/-- A computation gives no class a second record, whether it fails or not. -/
def Tidy (x : Run σ α ρ β) : Prop := ∀ s, s.Keyed → (x s).2.Keyed

theorem Tidy.bind {x : Run σ α ρ β} {f : β → Run σ α ρ γ} (hx : Tidy x) (hf : ∀ b, Tidy (f b)) :
    Tidy (x >>= f) := by
  intro s hs
  have heq : (x >>= f) s = ExceptT.bindCont f (x s).1 (x s).2 := rfl
  have hnext := hx s hs
  rw [heq]
  rcases hxs : x s with ⟨_ | b, t⟩ <;> rw [hxs] at hnext
  · exact hnext
  · exact hf b t hnext

theorem tidy_pure (b : β) : Tidy (pure b : Run σ α ρ β) := fun _ hs => hs

theorem tidy_throw (err : Failure) : Tidy (throw err : Run σ α ρ β) := fun _ hs => hs

theorem tidy_get : Tidy (get : Run σ α ρ (State σ α ρ)) := fun _ hs => hs

theorem tidy_update {f : State σ α ρ → State σ α ρ} (h : ∀ s, s.Keyed → (f s).Keyed) : Tidy (update f) := h

theorem tidy_note (level : Level) (message : String) :
    Tidy (update (·.note level message) : Run σ α ρ Unit) := tidy_update fun _ hs => hs

theorem tidy_move (id : DeclarationId) (f : Progress α ρ → Except IllegalMove (Progress α ρ)) :
    Tidy (update (·.move id f) : Run σ α ρ Unit) := tidy_update fun _ hs => hs.move id f

theorem tidy_enter (id : DeclarationId) : Tidy (update (·.enter id) : Run σ α ρ Unit) :=
  tidy_update fun _ hs => hs

theorem tidy_leave : Tidy (update (·.leave) : Run σ α ρ Unit) := tidy_update fun _ hs => hs

section Question

variable {ask : Query → State σ α ρ → Except Failure (Answer α ρ) × State σ α ρ}
  (hask : ∀ q s, s.Keyed → (ask q s).2.Keyed)

include hask

theorem perform_keyed (r : Routine σ α ρ β) {s : State σ α ρ} (hs : s.Keyed) :
    (perform ask r s).2.Keyed := by
  induction r generalizing s with
  | done b => exact hs
  | read next ih => exact ih s.world hs
  | write world next ih => exact ih hs
  | log level message next ih => exact ih hs
  | look next ih => exact ih s.view hs
  | query q next ih => exact ih _ (hask q s hs)

theorem handle_tidy (phase : Phase) (id : DeclarationId) (r : Routine σ α ρ β) :
    Tidy (handle ask phase id r) := fun _ hs => perform_keyed hask r hs

omit hask in
theorem conclude_tidy (id : DeclarationId) (name : String) (f : Findings α) :
    Tidy (conclude id name f : Run σ α ρ (Option α)) := by
  unfold conclude
  split
  · exact (tidy_note _ _).bind fun _ => (tidy_move _ _).bind fun _ => tidy_pure _
  · split
    · exact (tidy_move _ _).bind fun _ => (tidy_note _ _).bind fun _ => tidy_pure _
    · exact (tidy_move _ _).bind fun _ => (tidy_note _ _).bind fun _ => tidy_pure _

theorem analyzeClaimed_tidy (id : DeclarationId) (d : Declaration) (c : Claim σ α ρ) :
    Tidy (analyzeClaimed ask id d c) := by
  have hfirst : Tidy (firstPhase ask id d.name c) := by
    refine (tidy_move _ _).bind fun _ => (tidy_note _ _).bind fun _ => ?_
    refine (tidy_enter id).bind fun _ => (handle_tidy hask _ _ _).bind fun findings => ?_
    refine tidy_leave.bind fun _ => (conclude_tidy _ _ _).bind fun found => ?_
    cases found with
    | none => exact tidy_pure ()
    | some a => exact handle_tidy hask _ _ _
  refine (tidy_update fun _ hs => hs.record _).bind fun _ => ?_
  split
  · exact (tidy_move _ _).bind fun _ => tidy_note _ _
  · exact hfirst

theorem analyze_tidy (id : DeclarationId) : Tidy (analyze e ask id) := by
  refine tidy_get.bind fun s => ?_
  split
  · exact tidy_throw _
  · exact tidy_pure ()
  · split
    · exact tidy_pure ()
    · unfold analyzeNew
      split
      · exact analyzeClaimed_tidy hask _ _ _
      · exact tidy_update fun _ hs => hs

theorem analyzeEach_tidy (ds : List Declaration) (whole : Bool) : Tidy (analyzeEach e ask ds whole) := by
  induction ds generalizing whole with
  | nil => exact tidy_pure _
  | cons d ds ih =>
    unfold analyzeEach
    split
    · exact ih _
    · refine tidy_get.bind fun s => ?_
      split
      · exact ih _
      · exact (analyze_tidy hask d.id).bind fun _ => ih _

theorem analyzeAll_tidy : Tidy (analyzeAll e ask) := by
  refine tidy_get.bind fun s => ?_
  split
  · exact tidy_pure ()
  · refine (analyzeEach_tidy hask _ _).bind fun whole => ?_
    split
    · exact tidy_update fun _ hs => hs
    · exact tidy_pure ()

theorem resolve_tidy (id : DeclarationId) : Tidy (resolve e ask id) := by
  refine (analyze_tidy hask id).bind fun _ => (analyzeAll_tidy hask).bind fun _ => tidy_get.bind fun s => ?_
  split
  · exact tidy_pure ()
  · split
    · refine (tidy_move _ _).bind fun _ => (tidy_enter id).bind fun _ => ?_
      refine (handle_tidy hask _ _ _).bind fun settled => tidy_leave.bind fun _ => ?_
      split
      · exact (tidy_note _ _).bind fun _ => tidy_move _ _
      · exact (tidy_move _ _).bind fun _ => tidy_note _ _
    · exact tidy_throw _
    · exact tidy_throw _
    · exact tidy_pure ()

theorem reply_tidy (q : Query) : Tidy (reply e ask q) := by
  cases q with
  | analyze id => exact (analyze_tidy hask id).bind fun _ => tidy_pure _
  | resolve id => exact (resolve_tidy hask id).bind fun _ => tidy_pure _
  | analyzeAll => exact (analyzeAll_tidy hask).bind fun _ => tidy_pure _
  | role id =>
    exact ((analyze_tidy hask id).bind fun _ => tidy_get.bind fun _ => tidy_pure _).bind fun _ => tidy_pure _
  | resolution id =>
    exact ((resolve_tidy hask id).bind fun _ => tidy_get.bind fun _ => tidy_pure _).bind fun _ => tidy_pure _
  | diagnostics id =>
    exact ((resolve_tidy hask id).bind fun _ => tidy_get.bind fun _ => tidy_pure _).bind fun _ => tidy_pure _
  | analysis id =>
    refine Tidy.bind ((resolve_tidy hask id).bind fun _ => tidy_get.bind fun s => ?_) fun _ => tidy_pure _
    split
    · exact tidy_pure _
    · split
      · exact tidy_throw _
      · exact tidy_pure _

end Question

/-- No question gives a class a second record. -/
theorem answer_keyed (e : Engine σ α ρ) (q : Query) {s : State σ α ρ} (hs : s.Keyed) :
    (e.answer q s).2.Keyed := by
  have hwithin : ∀ n q s, s.Keyed → (answerWithin e n q s).2.Keyed := by
    intro n
    induction n with
    | zero => exact fun _ _ hs => hs
    | succ n ih => exact fun q s hs => reply_tidy ih q s hs
  exact hwithin _ q s hs

/-! ### After the whole program was analysed -/

variable (ask : Query → State σ α ρ → Except Failure (Answer α ρ) × State σ α ρ) in
theorem prepare_analyzesAll {K : Contract e} {s : State σ α ρ} (hp : e.program.Numbered) (h : K.Tracks s)
    {q : Query} (hq : analyzesAll q) :
    Runs (prepare e ask q) (prepare e ask q) s fun b t => b = .ok () ∧ t.allAnalyzed := by
  cases q with
  | analyze | role => cases hq
  | analyzeAll => exact (analyzeAll_tracks hp h).mono fun _ _ ht => ⟨ht.1, ht.2.2⟩
  | resolve id | analysis id | resolution id | diagnostics id =>
    exact (resolve_tracks hp h id).mono fun _ _ ht => ⟨ht.1, ht.2.2.2⟩

/-- The whole program is analysed after every question for which it has to be. -/
theorem answer_analyzesAll {K : Contract e} {s : State σ α ρ} (hp : e.program.Numbered) (h : K.Tracks s)
    {q : Query} (hq : analyzesAll q) : (e.answer q s).2.allAnalyzed := by
  have hrun : Runs (reply e (answerWithin e (e.depth - 1)) q) (reply e (answerWithin e (e.depth - 1)) q) s
      fun _ t => t.allAnalyzed := by
    rw [reply_eq]
    refine .bind (prepare_analyzesAll _ hp h hq) ?_ ?_
    · rintro _ t ⟨-, hall⟩
      exact ⟨rfl, hall⟩
    · rintro err t ⟨hb, -⟩
      cases hb
  exact hrun.2

/-- The classes with a role, in the order of the program. -/
def classes (e : Engine σ α ρ) (role : Role) : List DeclarationId :=
  (List.range e.program.declarations.length).filter fun id =>
    (e.claimed? id).any fun claimed => claimed.2.detected.role = role

theorem mem_classes {role : Role} {id : DeclarationId} :
    id ∈ e.classes role ↔ ∃ d c, e.claimed? id = some (d, c) ∧ c.detected.role = role := by
  rw [classes, List.mem_filter, List.mem_range]
  constructor
  · rintro ⟨-, hany⟩
    obtain ⟨⟨d, c⟩, hc, hrole⟩ := (Option.any_eq_true ..).1 hany
    exact ⟨d, c, hc, of_decide_eq_true hrole⟩
  · rintro ⟨d, c, hc, hrole⟩
    obtain ⟨d', hd, -⟩ := isClass_of_claimed? (show (e.claimed? id).isSome by rw [hc]; rfl)
    exact ⟨(List.getElem?_eq_some_iff.1 hd).1, by simp [hc, hrole]⟩

theorem Contract.Tracks.mem_records {K : Contract e} {s : State σ α ρ} (h : K.Tracks s) (hs : s.Keyed)
    (hall : s.allAnalyzed) (role : Role) (id : DeclarationId) :
    (∃ r, (id, r) ∈ s.records ∧ role = r.detected.role) ↔ id ∈ e.classes role := by
  simp only [mem_classes, Table.mem_iff_get? hs]
  constructor
  · rintro ⟨r, hr, rfl⟩
    obtain ⟨d, c, p, hc, rfl, -⟩ := h.record hr
    exact ⟨d, c, hc, rfl⟩
  · rintro ⟨d, c, hc, rfl⟩
    obtain ⟨r, hr⟩ := Option.isSome_iff_exists.1 (h.all hall id (by rw [hc]; rfl))
    obtain ⟨d', c', p, hc', rfl, -⟩ := h.record hr
    cases hc.symm.trans hc'
    exact ⟨_, hr, rfl⟩

/-- All classes with a role are listed, those with errors included. -/
theorem Contract.Tracks.recorded_eq {K : Contract e} {s : State σ α ρ} (h : K.Tracks s) (hs : s.Keyed)
    (hall : s.allAnalyzed) (role : Role) : s.recorded (some role) = e.classes role := by
  have hmem : ∀ id, id ∈ (s.records.filter fun x => (some role).all (· == x.2.detected.role)).map (·.1) ↔
      id ∈ e.classes role := by
    intro id
    rw [← h.mem_records hs hall role id]
    simp
  -- Both lists are sorted by number and have the same members, each once.
  have hperm : (s.recorded (some role)).Perm (e.classes role) := by
    refine (List.mergeSort_perm _ _).trans ((List.perm_ext_iff_of_nodup ?_ ?_).2 hmem)
    · exact hs.sublist (List.filter_sublist.map _)
    · exact List.nodup_range.filter _
  have hsorted : (e.classes role).SortedLE :=
    ((List.sortedLT_range _).sortedLE.pairwise.filter _).sortedLE
  exact hperm.eq_of_sortedLE List.sortedLE_mergeSort hsorted

/-! ### Classes that have come to an end -/

theorem declaration?_of_claimed? {id : DeclarationId} {d : Declaration} {c : Claim σ α ρ}
    (h : e.claimed? id = some (d, c)) :
    e.program.declaration? id = some d := by
  unfold claimed? at h
  split at h
  · next hd _ =>
    cases h
    exact (Option.filter_eq_some_iff.1 hd).1
  · cases h

namespace Contract

variable {K : Contract e} {s : State σ α ρ} {id : DeclarationId}
  {d : Declaration} {c : Claim σ α ρ} {p : Progress α ρ}

/-- A class with errors has diagnostics. -/
theorem Last.exists_diagnostics (h : K.Last id d c p) (hs : p.stage = .errored) :
    ∃ ds, ds ≠ [] ∧ p.diagnostics? = some ds := by
  have hne : ∀ {ds : List Diagnostic}, ds.any (·.isError) → ds ≠ [] := by
    rintro _ hany rfl
    cases hany
  cases h with
  | first h =>
    unfold Contract.first at hs ⊢
    split at hs
    · next hempty =>
      rw [if_pos hempty]
      unfold Findings.progress at hs ⊢
      split at hs
      · next hfaulty =>
        rw [if_pos hfaulty]
        exact ⟨_, hne hfaulty, rfl⟩
      · split at hs <;> cases hs
    · next hempty =>
      rw [if_neg hempty]
      exact ⟨_, by simp, rfl⟩
  | settled h ht =>
    unfold Settlement.progress at hs ⊢
    split at hs
    · next hfaulty =>
      rw [if_pos hfaulty]
      exact ⟨_, hne hfaulty, rfl⟩
    · cases hs

/-- A resolved class has the analysis that was registered. -/
theorem Last.exists_analysis (hc : e.claimed? id = some (d, c)) (h : K.Last id d c p)
    (hs : p.stage = .resolved) : ∃ a, e.found? K.findings id = some a ∧ p.analysis? = some a := by
  cases h with
  | first h => rcases first_of_not_found hc h with hfirst | hfirst <;> rw [hfirst] at hs <;> cases hs
  | settled h ht =>
    refine ⟨_, h, ?_⟩
    unfold Settlement.progress at hs ⊢
    split at hs
    · cases hs
    · next hfaulty => rw [if_neg hfaulty]

/-- A class that is resolved or has errors has come as far as it can. -/
theorem Tracks.last_of_stage? (h : K.Tracks s) {stage : Stage} (hs : s.stage? id = some stage)
    (hne : stage ≠ .analyzed) :
    ∃ d c p, e.claimed? id = some (d, c) ∧ s.progress? id = some p ∧ p.stage = stage ∧
      Table.get? id s.records = some { c.pending id d.name with progress := p } ∧ K.Last id d c p := by
  obtain ⟨p, hp, rfl⟩ := Option.map_eq_some_iff.1 hs
  obtain ⟨r, hr, rfl⟩ := Option.map_eq_some_iff.1 hp
  obtain ⟨d, c, p, hc, rfl, hlast⟩ := h.open_or_last hr
  rcases hlast with ⟨a, -, rfl⟩ | hlast
  · exact absurd rfl hne
  · exact ⟨d, c, p, hc, hp, rfl, hr, hlast⟩

end Contract

end ComponentAtlas.Engine

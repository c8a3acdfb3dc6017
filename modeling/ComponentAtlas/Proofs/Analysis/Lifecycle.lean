import ComponentAtlas.Analysis.Engine
import Mathlib.Data.List.Nodup
import Mathlib.Data.List.Infix
import Mathlib.Data.List.Perm.Subperm
import Mathlib.Data.List.ProdSigma

/-!
# The state of the engine between two steps

What holds of the engine whenever a handler is entered or a question is answered, and how single
changes of the state keep it.

* `Progress.Consistent`: a class has the results that belong to its stage, and no others;
* `Scene.Orderly`: every class is consistent, and the declarations that handlers are working on are
  those whose stage says so;
* `Moment.Lawful`: a moment of the history is orderly, and a question about a class that is being
  worked on was answered with the failure that shows the circle;
* `State.Sound`: the invariant; it ties records, running declarations and history together;
* `State.Keeps`: what a question leaves alone, whatever the handlers below it do.
-/

namespace ComponentAtlas

open ComponentAtlas.Script

/-! ### Stages and results -/

namespace Progress

variable {α ρ : Type} {p : Progress α ρ}

/-- The results are those of the stage: an analysis from the end of the first phase until the class
fails, diagnostics when it has failed, a resolution at most when it is resolved. -/
structure Consistent (p : Progress α ρ) : Prop where
  analysis : p.analysis?.isSome ↔ p.stage = .analyzed ∨ p.stage = .resolving ∨ p.stage = .resolved
  diagnostics : p.diagnostics?.isSome ↔ p.stage = .errored
  resolution : p.resolution?.isSome → p.stage = .resolved

theorem advance_of_mem {allowed : List Stage} (h : p.stage ∈ allowed) (target : Stage)
    (f : Progress α ρ → Progress α ρ) : advance allowed target f p = .ok { f p with stage := target } :=
  if_pos h

theorem consistent_pending : (pending : Progress α ρ).Consistent := by
  constructor <;> simp [pending]

theorem Consistent.start (h : p.Consistent) (hs : p.stage = .pending) :
    ∃ q, p.start = .ok q ∧ q.Consistent ∧ q.stage = .analyzing := by
  refine ⟨_, advance_of_mem (by simp [hs]) _ _, ?_, rfl⟩
  obtain ⟨ha, hd, hr⟩ := h
  constructor <;> simp_all

theorem Consistent.analyze (h : p.Consistent) (hs : p.stage = .analyzing) (a : α) :
    ∃ q, p.analyze a = .ok q ∧ q.Consistent ∧ q.stage = .analyzed := by
  refine ⟨_, advance_of_mem (by simp [hs]) _ _, ?_, rfl⟩
  obtain ⟨ha, hd, hr⟩ := h
  constructor <;> simp_all

theorem Consistent.resume (h : p.Consistent) (hs : p.stage = .analyzed) :
    ∃ q, p.resume = .ok q ∧ q.Consistent ∧ q.stage = .resolving := by
  refine ⟨_, advance_of_mem (by simp [hs]) _ _, ?_, rfl⟩
  obtain ⟨ha, hd, hr⟩ := h
  constructor <;> simp_all

theorem Consistent.resolve (h : p.Consistent) (hs : p.stage = .resolving) (r : Option ρ) :
    ∃ q, p.resolve r = .ok q ∧ q.Consistent ∧ q.stage = .resolved := by
  refine ⟨_, advance_of_mem (by simp [hs]) _ _, ?_, rfl⟩
  obtain ⟨ha, hd, hr⟩ := h
  constructor <;> simp_all

theorem fail_consistent
    (hs : p.stage = .pending ∨ p.stage = .analyzing ∨ p.stage = .resolving) (ds : List Diagnostic) :
    ∃ q, p.fail ds = .ok q ∧ q.Consistent ∧ q.stage = .errored := by
  refine ⟨_, advance_of_mem (by rcases hs with hs | hs | hs <;> simp [hs]) _ _, ?_, rfl⟩
  constructor <;> simp

theorem Consistent.skip (h : p.Consistent) (hs : p.stage = .analyzing) :
    ∃ q, p.skip = .ok q ∧ q.Consistent ∧ q.stage = .skipped := by
  refine ⟨_, advance_of_mem (by simp [hs]) _ _, ?_, rfl⟩
  obtain ⟨ha, hd, hr⟩ := h
  constructor <;> simp_all

end Progress

/-- Whether a class that has come to a stage may have entered a phase. -/
def Phase.fits : Phase → Stage → Bool
  | .analyze, _ => true
  | .register, stage => stage ∈ [.analyzed, .resolving, .resolved, .errored]
  | .resolve, stage => stage ∈ [.resolving, .resolved, .errored]

theorem Phase.fits_of_late {stage : Stage} (h : stage ∈ [.resolving, .resolved, .errored])
    (phase : Phase) : phase.fits stage := by
  cases phase <;> simp_all [fits]

namespace Engine

variable {σ α ρ : Type}

/-! ### Scenes -/

/-- Every class has the results of its stage, and the declarations that handlers are working on are,
without repetition, those whose stage is a running one. -/
structure Scene.Orderly (s : Scene σ α ρ) : Prop where
  consistent : ∀ {id p}, s.progress? id = some p → p.Consistent
  nodup : s.running.Nodup
  mem_running : ∀ id, id ∈ s.running ↔ (s.stage? id).any Stage.isRunning

theorem Scene.stage?_of_progress? {s : Scene σ α ρ} {id : DeclarationId} {p : Progress α ρ}
    (h : s.progress? id = some p) : s.stage? id = some p.stage := by
  simp [stage?, h]

theorem Scene.Orderly.notMem_running {s : Scene σ α ρ} (h : s.Orderly) {id : DeclarationId}
    (hs : ∀ stage, s.stage? id = some stage → stage.isRunning = false) : id ∉ s.running := by
  intro hm
  obtain ⟨stage, hstage, hrun⟩ := (Option.any_eq_true _ _).1 ((h.mem_running id).1 hm)
  rw [hs stage hstage] at hrun
  cases hrun

/-! ### Moments -/

/-- The class because of which a question cannot be answered: the question needs its first phase,
or both phases, and a handler is working on it. -/
def circle? (s : Scene σ α ρ) : Query → Option DeclarationId
  | .analyzeAll => none
  | .analyze id | .role id => if s.stage? id = some .analyzing then some id else none
  | .resolve id | .analysis id | .resolution id | .diagnostics id =>
    if (s.stage? id).any Stage.isRunning then some id else none

theorem reentrancy_congr (e : Engine σ α ρ) {s t : Scene σ α ρ} (h : t.running = s.running)
    (id : DeclarationId) : e.reentrancy t id = e.reentrancy s id := by
  rw [reentrancy, reentrancy, h]

/-- Whether a question asks for something to be done, and for no result. -/
def isCommand : Query → Bool
  | .analyze _ | .resolve _ | .analyzeAll => true
  | _ => false

/-- How a question fails: with the circle when there is one, and only then; without a circle a command
does not fail at all. -/
structure Answers (e : Engine σ α ρ) (q : Query) (before : Scene σ α ρ)
    (answer : Except Failure (Answer α ρ)) : Prop where
  circle : ∀ {id}, circle? before q = some id → answer = .error (e.reentrancy before id)
  clear : circle? before q = none → ∀ trail, answer ≠ .error (.reentrancy trail)
  command : circle? before q = none → isCommand q → answer = .ok .done

namespace Moment

/-- The phase and the class for which a handler was entered. -/
def entry? : Moment σ α ρ → Option (Phase × DeclarationId)
  | .entered phase id _ => some (phase, id)
  | .answered _ _ _ _ => none

/-- Handlers are entered, and questions asked and answered, in orderly scenes; an answer gives the
running declarations back as they were. -/
def Lawful (e : Engine σ α ρ) : Moment σ α ρ → Prop
  | .entered _ _ scene => scene.Orderly
  | .answered q before answer after =>
    before.Orderly ∧ after.Orderly ∧ after.running = before.running ∧ e.Answers q before answer

end Moment

/-! ### The invariant -/

namespace State

/-- The phases that were entered, the latest first. -/
def entries (s : State σ α ρ) : List (Phase × DeclarationId) := s.history.filterMap Moment.entry?

/-- The invariant of the engine. -/
structure Sound (e : Engine σ α ρ) (s : State σ α ρ) : Prop where
  orderly : s.toScene.Orderly
  refusals : s.refusals = []
  inside : ∀ {id p}, s.progress? id = some p → id < e.program.declarations.length
  nodup : s.entries.Nodup
  fits : ∀ {phase id}, (phase, id) ∈ s.entries → ∃ p, s.progress? id = some p ∧ phase.fits p.stage
  lawful : ∀ m ∈ s.history, m.Lawful e

/-- What a question leaves alone: the running declarations with their progress, and the past. -/
structure Keeps (s t : State σ α ρ) : Prop where
  running : t.running = s.running
  progress : ∀ id ∈ s.running, t.progress? id = s.progress? id
  history : s.history <:+ t.history

theorem Keeps.refl (s : State σ α ρ) : s.Keeps s := ⟨rfl, fun _ _ => rfl, List.suffix_rfl⟩

theorem Keeps.trans {s t u : State σ α ρ} (h : s.Keeps t) (h' : t.Keeps u) : s.Keeps u where
  running := h'.running.trans h.running
  progress id hid := (h'.progress id (by rw [h.running]; exact hid)).trans (h.progress id hid)
  history := h.history.trans h'.history

theorem Keeps.of_remember {s t : State σ α ρ} {m : Moment σ α ρ} (h : (s.remember m).Keeps t) :
    s.Keeps t where
  running := h.running
  progress := h.progress
  history := (List.suffix_cons m s.history).trans h.history

theorem Keeps.entries_length_le {s t : State σ α ρ} (h : s.Keeps t) :
    s.entries.length ≤ t.entries.length :=
  (h.history.sublist.filterMap _).length_le

/-- A question begins and ends with the same classes being worked on. -/
theorem Keeps.any_isRunning {e : Engine σ α ρ} {s t : State σ α ρ} (h : s.Keeps t) (hs : s.Sound e)
    (ht : t.Sound e) (id : DeclarationId) :
    (t.stage? id).any Stage.isRunning = (s.stage? id).any Stage.isRunning := by
  rw [Bool.eq_iff_iff, ← ht.orderly.mem_running, ← hs.orderly.mem_running, h.running]

/-- Every phase is entered at most once for every declaration of the program. -/
theorem Sound.entries_length_le {e : Engine σ α ρ} {s : State σ α ρ} (h : s.Sound e) :
    s.entries.length ≤ 3 * e.program.declarations.length := by
  let all := [Phase.analyze, .register, .resolve] ×ˢ List.range e.program.declarations.length
  have hsub : s.entries ⊆ all := by
    rintro ⟨phase, id⟩ hm
    obtain ⟨p, hp, -⟩ := h.fits hm
    rw [List.mem_product, List.mem_range]
    exact ⟨by cases phase <;> simp, h.inside hp⟩
  have hlen : all.length = 3 * e.program.declarations.length := by
    rw [List.length_product, List.length_range]
    rfl
  rw [← hlen]
  exact (List.Nodup.subperm h.nodup hsub).length_le

/-- While a class is being analysed, no later phase was entered for it. -/
theorem Sound.eq_analyze_of_mem {e : Engine σ α ρ} {s : State σ α ρ} (h : s.Sound e)
    {id : DeclarationId} {p : Progress α ρ} (hp : s.progress? id = some p) (hs : p.stage = .analyzing)
    {phase : Phase} (hm : (phase, id) ∈ s.entries) : phase = .analyze := by
  obtain ⟨q, hq, hf⟩ := h.fits hm
  rw [hp] at hq
  cases hq
  rw [hs] at hf
  cases phase <;> simp_all [Phase.fits]

theorem Sound.notMem_entries_of_new {e : Engine σ α ρ} {s : State σ α ρ} (h : s.Sound e)
    {id : DeclarationId} (hp : s.progress? id = none) (phase : Phase) : (phase, id) ∉ s.entries := by
  intro hm
  obtain ⟨q, hq, -⟩ := h.fits hm
  rw [hp] at hq
  cases hq

/-! ### Single changes -/

/-- One class comes to the progress `p`, and then `running` are the running declarations; the log and
the world may change, all else stays. -/
structure Moves (s t : State σ α ρ) (id : DeclarationId) (p : Progress α ρ)
    (running : List DeclarationId) : Prop where
  self : t.progress? id = some p
  other : ∀ j ≠ id, t.progress? j = s.progress? j
  running : t.running = running
  refusals : t.refusals = s.refusals
  history : t.history = s.history

section Moves

variable {s t u : State σ α ρ} {id : DeclarationId} {p q : Progress α ρ} {l l' : List DeclarationId}

theorem moves_refl (hp : s.progress? id = some p) : s.Moves s id p s.running :=
  ⟨hp, fun _ _ => rfl, rfl, rfl, rfl⟩

theorem Moves.trans (h : s.Moves t id p l) (h' : t.Moves u id q l') : s.Moves u id q l' where
  self := h'.self
  other j hj := (h'.other j hj).trans (h.other j hj)
  running := h'.running
  refusals := h'.refusals.trans h.refusals
  history := h'.history.trans h.history

theorem Moves.note (h : s.Moves t id p l) (level : Level) (message : String) :
    s.Moves (t.note level message) id p l :=
  ⟨h.self, h.other, h.running, h.refusals, h.history⟩

theorem Moves.enter (h : s.Moves t id p l) : s.Moves (t.enter id) id p (l ++ [id]) :=
  ⟨h.self, h.other, congrArg (· ++ [id]) h.running, h.refusals, h.history⟩

theorem moves_leave (hp : s.progress? id = some p) (hr : s.running = l ++ [id]) :
    s.Moves s.leave id p l where
  self := hp
  other _ _ := rfl
  running := by rw [leave, hr, List.dropLast_concat]
  refusals := rfl
  history := rfl

theorem moves_put (s : State σ α ρ) (id : DeclarationId) (r : Record σ α ρ) :
    s.Moves { s with records := Table.put id r s.records } id r.progress s.running where
  self := by simp [Scene.progress?]
  other j hj := by simp [Scene.progress?, Table.get?_put_of_ne hj]
  running := rfl
  refusals := rfl
  history := rfl

theorem Moves.move {f : Progress α ρ → Except IllegalMove (Progress α ρ)} (h : s.Moves t id p l)
    (hf : f p = .ok q) : s.Moves (t.move id f) id q l := by
  obtain ⟨r, hr, hrp⟩ := Option.map_eq_some_iff.1 h.self
  have hmove : t.move id f = { t with records := Table.put id { r with progress := q } t.records } := by
    simp [State.move, hr, hrp, hf]
  rw [hmove, ← h.running]
  exact h.trans (moves_put t id _)

end Moves

section Change

variable {e : Engine σ α ρ} {s t : State σ α ρ} {id : DeclarationId} {p : Progress α ρ}
  {l : List DeclarationId}

/-- A change that the invariant does not see. -/
theorem Sound.congr (h : s.Sound e) (hs : t.toScene = s.toScene) (hr : t.refusals = s.refusals)
    (hh : t.history = s.history) : t.Sound e := by
  have he : t.entries = s.entries := by rw [entries, entries, hh]
  refine ⟨by rw [hs]; exact h.orderly, by rw [hr]; exact h.refusals, ?_, by rw [he]; exact h.nodup,
    ?_, by rw [hh]; exact h.lawful⟩
  · rw [hs]; exact h.inside
  · rw [he, hs]; exact h.fits

/-- One class moves, and is running exactly if its new stage says so. -/
theorem Sound.change (h : s.Sound e) (hid : id < e.program.declarations.length)
    (hm : s.Moves t id p l) (hc : p.Consistent) (hn : l.Nodup) (hself : id ∈ l ↔ p.stage.isRunning)
    (hother : ∀ j ≠ id, j ∈ l ↔ j ∈ s.running)
    (hf : ∀ phase, (phase, id) ∈ s.entries → phase.fits p.stage) : t.Sound e := by
  have he : t.entries = s.entries := by rw [entries, entries, hm.history]
  refine ⟨⟨?_, by rw [hm.running]; exact hn, ?_⟩, by rw [hm.refusals]; exact h.refusals, ?_,
    by rw [he]; exact h.nodup, ?_, by rw [hm.history]; exact h.lawful⟩
  · intro j q hj
    by_cases hji : j = id
    · rw [hji, hm.self] at hj
      cases hj
      exact hc
    · rw [hm.other j hji] at hj
      exact h.orderly.consistent hj
  · intro j
    rw [hm.running]
    by_cases hji : j = id
    · rw [hji, hself, Scene.stage?_of_progress? hm.self]
      rfl
    · rw [hother j hji, h.orderly.mem_running, Scene.stage?, Scene.stage?, hm.other j hji]
  · intro j q hj
    by_cases hji : j = id
    · rw [hji]; exact hid
    · rw [hm.other j hji] at hj
      exact h.inside hj
  · intro phase j hmem
    rw [he] at hmem
    by_cases hji : j = id
    · subst hji
      exact ⟨p, hm.self, hf phase hmem⟩
    · rw [hm.other j hji]
      exact h.fits hmem

/-- A phase begins. -/
theorem Sound.begin (h : s.Sound e) (hid : id < e.program.declarations.length)
    (hm : s.Moves t id p (s.running ++ [id])) (hc : p.Consistent) (hrun : p.stage.isRunning)
    (hnot : id ∉ s.running) (hf : ∀ phase, (phase, id) ∈ s.entries → phase.fits p.stage) :
    t.Sound e := by
  refine h.change hid hm hc ?_ (by simp [hrun]) (fun j hj => by simp [hj]) hf
  rw [List.nodup_append]
  exact ⟨h.orderly.nodup, List.nodup_singleton _, by rintro a ha b hb rfl; simp_all⟩

/-- A phase ends. -/
theorem Sound.finish (h : s.Sound e) (hid : id < e.program.declarations.length)
    (hr : s.running = l ++ [id]) (hm : s.Moves t id p l) (hc : p.Consistent)
    (hrun : p.stage.isRunning = false) (hf : ∀ phase, (phase, id) ∈ s.entries → phase.fits p.stage) :
    t.Sound e := by
  have hn := h.orderly.nodup
  rw [hr, List.nodup_append] at hn
  obtain ⟨hl, -, hdisj⟩ := hn
  have hnot : id ∉ l := fun hm => hdisj id hm id (List.mem_singleton_self id) rfl
  exact h.change hid hm hc hl (by simp [hrun, hnot]) (fun j hj => by simp [hr, hj]) hf

/-- A class that is not being worked on moves, and is not being worked on afterwards. -/
theorem Sound.settle (h : s.Sound e) (hid : id < e.program.declarations.length)
    (hm : s.Moves t id p s.running) (hc : p.Consistent) (hrun : p.stage.isRunning = false)
    (hnot : id ∉ s.running) (hf : ∀ phase, (phase, id) ∈ s.entries → phase.fits p.stage) :
    t.Sound e :=
  h.change hid hm hc h.orderly.nodup (by simp [hrun, hnot]) (fun _ _ => Iff.rfl) hf

theorem Moves.keeps (hm : s.Moves t id p s.running) (hnot : id ∉ s.running) : s.Keeps t where
  running := hm.running
  progress j hj := hm.other j fun h => hnot (h ▸ hj)
  history := hm.history ▸ List.suffix_rfl

/-- A phase that begins and ends, with anything in between, leaves the other running declarations
alone. -/
theorem Keeps.round {t' u : State σ α ρ} {q : Progress α ρ} {m : Moment σ α ρ} (hnot : id ∉ s.running)
    (hm : s.Moves t id p (s.running ++ [id])) (hk : (t.remember m).Keeps t')
    (hm' : t'.Moves u id q s.running) : s.Keeps u where
  running := hm'.running
  progress j hj := by
    have hji : j ≠ id := fun h => hnot (h ▸ hj)
    have hjt : j ∈ (t.remember m).running := by
      show j ∈ t.running
      rw [hm.running]
      exact List.mem_append_left _ hj
    rw [hm'.other j hji, hk.progress j hjt]
    exact hm.other j hji
  history := by
    rw [hm'.history, ← hm.history]
    exact (List.suffix_cons m t.history).trans hk.history

/-- A handler is entered for a class that has come far enough, and for the first time. -/
theorem Sound.remember_entered (h : s.Sound e) {phase : Phase} (hp : s.progress? id = some p)
    (hf : phase.fits p.stage) (hnew : (phase, id) ∉ s.entries) :
    (s.remember (.entered phase id s.toScene)).Sound e where
  orderly := h.orderly
  refusals := h.refusals
  inside := h.inside
  nodup := List.nodup_cons.2 ⟨hnew, h.nodup⟩
  fits := by
    intro phase' j hm
    rcases List.mem_cons.1 hm with heq | hm
    · cases heq
      exact ⟨p, hp, hf⟩
    · exact h.fits hm
  lawful := by
    intro m hm
    rcases List.mem_cons.1 hm with rfl | hm
    · exact h.orderly
    · exact h.lawful m hm

/-- A question is answered. -/
theorem Sound.remember_answered (h : t.Sound e) (hs : s.Sound e) (hk : s.Keeps t) {q : Query}
    {answer : Except Failure (Answer α ρ)} (ha : e.Answers q s.toScene answer) :
    (t.remember (.answered q s.toScene answer t.toScene)).Sound e where
  orderly := h.orderly
  refusals := h.refusals
  inside := h.inside
  nodup := h.nodup
  fits := h.fits
  lawful := by
    intro m hm
    rcases List.mem_cons.1 hm with rfl | hm
    · exact ⟨hs.orderly, h.orderly, hk.running, ha⟩
    · exact h.lawful m hm

end Change

end State

end Engine

end ComponentAtlas

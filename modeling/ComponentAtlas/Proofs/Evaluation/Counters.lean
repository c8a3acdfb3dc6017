import ComponentAtlas.Proofs.Evaluation.Plan

/-!
# Evaluation with counters

An evaluation that counts its depth, and keeps its stacks, by hand: it is stopped where the depth has
reached a limit, and every counter is set back where a part has been evaluated. A record is kept of
all values that the counters have had.

* `Machine`: the counters and the record; `Plan.exec`: a plan is carried out on them;
* `Machine.visit`: evaluation of an expression, as deeply nested as `fuel` allows;
* `Above`: a stack on which entries have been put one by one, each while it was not there;
* `Runs`: a computation on the machine that does what another one does and leaves the counters alone;
* `runs_visit`: the evaluation does, at every depth;
* `visit_balanced`: it ends, with all counters as they were.
-/

namespace ComponentAtlas.Evaluation

open ComponentAtlas.Script

/-! ### The machine -/

/-- Values of the counters: the depth, and the variables and calls that are being evaluated. -/
structure Counters where
  depth : Nat
  active : Stacks

/-- An evaluation under way, with all values that its counters have had, last first. -/
structure Machine where
  depth : Nat
  activity : Activity
  record : List Counters

namespace Machine

/-- The values of the counters. -/
def counters (m : Machine) : Counters := ⟨m.depth, m.activity.stacks⟩

/-- The counters are set. -/
def set (depth : Nat) (activity : Activity) (m : Machine) : Machine :=
  ⟨depth, activity, ⟨depth, activity.stacks⟩ :: m.record⟩

end Machine

/-- A computation on a machine that may not end. -/
abbrev Execution := StateT Machine Option

variable {α β : Type}

/-- A computation between two settings of the counters. -/
def between (enterDepth leaveDepth : Nat → Nat) (enter leave : Activity → Activity) (x : Execution α) :
    Execution α := do
  modify fun m => m.set (enterDepth m.depth) (enter m.activity)
  let v ← x
  modify fun m => m.set (leaveDepth m.depth) (leave m.activity)
  return v

/-- A plan is carried out. -/
def Plan.exec (visit : Expr → Place → Execution Value) : Plan α → Execution α
  | done v => pure v
  | note source target next => do
    modify fun m => { m with activity.edges := (source, target) :: m.activity.edges }
    next.exec visit
  | part node place next => do
    let v ← visit node place
    (next v).exec visit
  | check entry yes no => do
    let m ← get
    if entry.On m.activity then yes.exec visit else no.exec visit
  | during entry node place next => do
    let v ← between id id entry.push entry.pop (visit node place)
    (next v).exec visit

/-- The value of an expression. It is stopped where the depth has reached the limit. -/
noncomputable def Machine.visit (p : Program) (limit : Nat) : Nat → Expr → Place → Execution Value
  | 0, _, _ => failure
  | fuel + 1, node, place => do
    let m ← get
    if limit ≤ m.depth then return stopped node place .tooDeep
    else between (· + 1) (· - 1) id id ((plan p node place).exec (Machine.visit p limit fuel))

/-! ### Fuel -/

/-- Whenever `x` ends, so does `y`, and does the same. -/
def Execution.Extends (x y : Execution α) : Prop := ∀ m r, x m = some r → y m = some r

theorem Execution.Extends.bind {x y : Execution α} {f g : α → Execution β} (h : x.Extends y)
    (hf : ∀ v, (f v).Extends (g v)) : (x >>= f).Extends (y >>= g) := by
  intro m r hr
  obtain ⟨⟨v, m'⟩, hx, hr⟩ := Option.bind_eq_some_iff.1 (show (x m).bind _ = some r from hr)
  exact Option.bind_eq_some_iff.2 ⟨⟨v, m'⟩, h m _ hx, hf v m' r hr⟩

theorem Execution.extends_refl (x : Execution α) : x.Extends x := fun _ _ => id

theorem Plan.exec_extends {visit visit' : Expr → Place → Execution Value}
    (h : ∀ node place, (visit node place).Extends (visit' node place)) (plan : Plan α) :
    (plan.exec visit).Extends (plan.exec visit') := by
  induction plan with
  | done v => exact Execution.extends_refl _
  | note source target next ih => exact (Execution.extends_refl _).bind fun _ => ih
  | part node place next ih => exact (h node place).bind ih
  | check entry yes no ihyes ihno =>
    refine (Execution.extends_refl get).bind fun m => ?_
    split
    · exact ihyes
    · exact ihno
  | during entry node place next ih =>
    refine Execution.Extends.bind ?_ ih
    exact (Execution.extends_refl _).bind fun _ => (h node place).bind fun v => Execution.extends_refl _

/-- More fuel than is needed changes nothing. -/
theorem Machine.visit_extends (p : Program) (limit fuel : Nat) (node : Expr) (place : Place) :
    (Machine.visit p limit fuel node place).Extends (Machine.visit p limit (fuel + 1) node place) := by
  induction fuel generalizing node place with
  | zero => exact fun _ _ h => nomatch h
  | succ fuel ih =>
    refine (Execution.extends_refl get).bind fun m => ?_
    split
    · exact Execution.extends_refl _
    · exact (Execution.extends_refl _).bind fun _ => (Plan.exec_extends ih _).bind fun v =>
        Execution.extends_refl _

/-! ### Stacks -/

/-- A stack on which entries have been put one by one, each while it was not there. -/
inductive Above {α : Type} (outer : List α) : List α → Prop
  | refl : Above outer outer
  | push {inner : List α} {x : α} (above : Above outer inner) (fresh : x ∉ inner) : Above outer (x :: inner)

theorem Above.trans {outer middle inner : List α} (h : Above outer middle) (h' : Above middle inner) :
    Above outer inner := by
  induction h' with
  | refl => exact h
  | push _ fresh ih => exact .push ih fresh

theorem Above.nodup {outer inner : List α} (h : Above outer inner) (houter : outer.Nodup) : inner.Nodup := by
  induction h with
  | refl => exact houter
  | push _ fresh ih => exact List.nodup_cons.2 ⟨fresh, ih⟩

/-- Stacks on which entries have been put, each while it was not there. -/
def Grown (outer inner : Stacks) : Prop := Above outer.1 inner.1 ∧ Above outer.2 inner.2

theorem grown_refl (s : Stacks) : Grown s s := ⟨.refl, .refl⟩

theorem Grown.trans {s t u : Stacks} (h : Grown s t) (h' : Grown t u) : Grown s u :=
  ⟨h.1.trans h'.1, h.2.trans h'.2⟩

theorem Entry.grown_push {entry : Entry} {a : Activity} (h : ¬ entry.On a) :
    Grown a.stacks (entry.push a).stacks := by
  cases entry with
  | binding id => exact ⟨.push .refl h, .refl⟩
  | call key => exact ⟨.refl, .push .refl h⟩

/-- What has been put on its stack is taken from it again. -/
theorem Entry.stacks_pop {entry : Entry} {a b : Activity} (h : b.stacks = (entry.push a).stacks) :
    (entry.pop b).stacks = a.stacks := by
  obtain ⟨hbindings, hcalls⟩ := Prod.mk.inj h
  cases entry with
  | binding id => exact Prod.ext (congrArg List.tail hbindings) hcalls
  | call key => exact Prod.ext hbindings (congrArg List.tail hcalls)

theorem Entry.on_congr {entry : Entry} {a b : Activity} (h : a.stacks = b.stacks) :
    entry.On a ↔ entry.On b := by
  obtain ⟨hbindings, hcalls⟩ := Prod.mk.inj h
  cases entry with
  | binding id => rw [On, On, hbindings]
  | call key => rw [On, On, hcalls]

/-! ### Runs -/

/-- From `m`, a computation on the machine ends and does what `y` does. It leaves the counters as they
were; in the meantime the depth is at most `limit`, and the stacks have grown. -/
def Runs (limit : Nat) (x : Execution α) (y : Eval α) (m : Machine) : Prop :=
  ∃ v m', x m = some (v, m') ∧ y m.activity = (v, m'.activity) ∧ m'.counters = m.counters ∧
    ∃ news, m'.record = news ++ m.record ∧ ∀ c ∈ news, c.depth ≤ limit ∧ Grown m.activity.stacks c.active

variable {limit : Nat} {m : Machine} {x : Execution α} {y : Eval α}

theorem Runs.congr {x' : Execution α} {y' : Eval α} (h : Runs limit x y m) (hx : x' m = x m)
    (hy : y' m.activity = y m.activity) : Runs limit x' y' m := by
  obtain ⟨v, m', hexec, hrun, hrest⟩ := h
  exact ⟨v, m', hx.trans hexec, hy.trans hrun, hrest⟩

theorem runs_pure (limit : Nat) (v : α) (m : Machine) : Runs limit (pure v) (pure v) m :=
  ⟨v, m, rfl, rfl, rfl, [], rfl, by simp⟩

theorem Runs.bind {f : α → Execution β} {g : α → Eval β} (h : Runs limit x y m)
    (hf : ∀ v m', m'.counters = m.counters → Runs limit (f v) (g v) m') :
    Runs limit (x >>= f) (y >>= g) m := by
  obtain ⟨v, m', hx, hy, hcounters, news, hrecord, hnews⟩ := h
  obtain ⟨w, m'', hf, hg, hcounters', news', hrecord', hnews'⟩ := hf v m' hcounters
  have hstacks : m'.activity.stacks = m.activity.stacks := congrArg Counters.active hcounters
  refine ⟨w, m'', ?_, ?_, hcounters'.trans hcounters, news' ++ news, ?_, fun c hc => ?_⟩
  · change (x m).bind _ = _
    rw [hx]
    exact hf
  · rw [bind_apply, hy]
    exact hg
  · rw [hrecord', hrecord, List.append_assoc]
  · rcases List.mem_append.1 hc with hc | hc
    · exact hstacks ▸ hnews' c hc
    · exact hnews c hc

/-- A computation after which the counters are set back. -/
theorem Runs.between (enterDepth leaveDepth : Nat → Nat) (enter leave : Activity → Activity)
    (hdepth : leaveDepth (enterDepth m.depth) = m.depth)
    (hstacks : ∀ a : Activity, a.stacks = (enter m.activity).stacks → (leave a).stacks = m.activity.stacks)
    (hlimit : m.depth ≤ limit) (hlimit' : enterDepth m.depth ≤ limit)
    (hgrown : Grown m.activity.stacks (enter m.activity).stacks)
    (h : Runs limit x y (m.set (enterDepth m.depth) (enter m.activity))) :
    Runs limit (between enterDepth leaveDepth enter leave x)
      (do modify enter
          let v ← y
          modify leave
          return v) m := by
  obtain ⟨v, m', hx, hy, hcounters, news, hrecord, hnews⟩ := h
  have hback : leaveDepth m'.depth = m.depth := by
    rw [show m'.depth = _ from congrArg Counters.depth hcounters]
    exact hdepth
  have hback' := hstacks m'.activity (congrArg Counters.active hcounters)
  refine ⟨v, m'.set (leaveDepth m'.depth) (leave m'.activity), ?_, ?_, ?_,
    ⟨leaveDepth m'.depth, (leave m'.activity).stacks⟩ ::
      news ++ [⟨enterDepth m.depth, (enter m.activity).stacks⟩], ?_, fun c hc => ?_⟩
  · change (x (m.set _ (enter m.activity))).bind _ = _
    rw [hx]
    rfl
  · change ((y (enter m.activity)).1, leave (y (enter m.activity)).2) = _
    rw [show y (enter m.activity) = _ from hy]
    rfl
  · exact congrArg₂ Counters.mk hback hback'
  · simp [Machine.set, hrecord]
  · simp only [List.cons_append, List.mem_cons, List.mem_append, List.not_mem_nil, or_false] at hc
    rcases hc with rfl | hc | rfl
    · exact ⟨hback ▸ hlimit, hback' ▸ grown_refl _⟩
    · exact ⟨(hnews c hc).1, hgrown.trans (hnews c hc).2⟩
    · exact ⟨hlimit', hgrown⟩

/-- A machine at a depth, on whose stacks nothing is of what is known not to be there. -/
structure Machine.Ready (depth : Nat) (known : List Entry) (m : Machine) : Prop where
  depth_eq : m.depth = depth
  fresh : ∀ entry ∈ known, ¬ entry.On m.activity

theorem Machine.Ready.congr {depth : Nat} {known : List Entry} {m' : Machine} (h : m.Ready depth known)
    (hm' : m'.counters = m.counters) : m'.Ready depth known :=
  ⟨(congrArg Counters.depth hm').trans h.depth_eq, fun entry hentry =>
    (Entry.on_congr (congrArg Counters.active hm')).not.2 (h.fresh entry hentry)⟩

/-- A guarded plan is carried out, if the machine can evaluate the parts. -/
theorem Plan.runs {visit : Visit} {visit' : Expr → Place → Execution Value} {depth : Nat}
    (hvisit : ∀ node place m, m.depth = depth → Runs limit (visit' node place) (visit node place) m)
    (hlimit : depth ≤ limit) {known : List Entry} (plan : Plan α) (hguarded : plan.Guarded known)
    {m : Machine} (hm : m.Ready depth known) : Runs limit (plan.exec visit') (plan.run visit) m := by
  induction plan generalizing known m with
  | done v => exact runs_pure limit v m
  | note source target next ih =>
    obtain ⟨v, m', h⟩ := ih hguarded (m := { m with activity.edges := (source, target) :: m.activity.edges })
      (hm.congr rfl)
    exact ⟨v, m', h⟩
  | part node place next ih =>
    exact (hvisit node place m hm.depth_eq).bind fun v m' hm' => ih v (hguarded v) (hm.congr hm')
  | check entry yes no ihyes ihno =>
    by_cases hon : entry.On m.activity
    · refine (ihyes hguarded.1 hm).congr ?_ ?_
      · exact congrFun (if_pos hon) m
      · exact congrFun (if_pos hon) m.activity
    · refine (ihno hguarded.2 ⟨hm.depth_eq, List.forall_mem_cons.2 ⟨hon, hm.fresh⟩⟩).congr ?_ ?_
      · exact congrFun (if_neg hon) m
      · exact congrFun (if_neg hon) m.activity
  | during entry node place next ih =>
    have hdepth : m.depth ≤ limit := hm.depth_eq ▸ hlimit
    have hpart := Runs.between id id entry.push entry.pop rfl (fun _ => entry.stacks_pop) hdepth hdepth
      (entry.grown_push (hm.fresh entry hguarded.1))
      (hvisit node place (m.set m.depth (entry.push m.activity)) hm.depth_eq)
    exact hpart.bind fun v m' hm' => ih v (hguarded.2 v) (hm.congr hm')

/-- With `rest` levels of depth left, the evaluation with counters does what the evaluation up to that
depth does. -/
theorem runs_visit (p : Program) (limit : Nat) (node : Expr) (place : Place) (m : Machine) {rest : Nat}
    (hrest : limit - m.depth = rest) :
    Runs limit (Machine.visit p limit (rest + 1) node place) (visit p rest node place) m := by
  induction rest generalizing node place m with
  | zero =>
    refine (runs_pure limit (stopped node place .tooDeep) m).congr ?_ rfl
    exact congrFun (if_pos (Nat.le_of_sub_eq_zero hrest)) m
  | succ rest ih =>
    have hvisit : ∀ node place (m' : Machine), m'.depth = m.depth + 1 →
        Runs limit (Machine.visit p limit (rest + 1) node place) (Evaluation.visit p rest node place) m' :=
      fun node place m' hm' => ih node place m' (by omega)
    have hready : (m.set (m.depth + 1) m.activity).Ready (m.depth + 1) [] := ⟨rfl, List.forall_mem_nil _⟩
    have hplan := (plan p node place).runs hvisit (by omega) (plan_guarded p node place) hready
    refine (Runs.between (· + 1) (· - 1) id id (Nat.add_sub_cancel _ _) (fun _ => id) (by omega) (by omega)
      (grown_refl _) hplan).congr ?_ ?_
    · exact congrFun (if_neg (by omega)) m
    · rw [Evaluation.visit, visitExpr_eq_run]
      rfl

/-- **The counters are balanced and bound the evaluation.** From every state the evaluation ends, with the
value and the activity of the evaluation up to a depth. The depth and the stacks are in the end as they
were. In the meantime the depth is never above the limit, and nothing is put on a stack on which it is:
nothing is ever twice on a stack on which nothing was twice. -/
theorem visit_balanced (p : Program) (limit : Nat) (node : Expr) (place : Place) (m : Machine) :
    ∃ value m', (∀ extra, Machine.visit p limit (limit - m.depth + 1 + extra) node place m =
        some (value, m')) ∧
      visit p (limit - m.depth) node place m.activity = (value, m'.activity) ∧
      m'.depth = m.depth ∧ m'.activity.bindings = m.activity.bindings ∧
      m'.activity.calls = m.activity.calls ∧
      ∃ news, m'.record = news ++ m.record ∧ ∀ c ∈ news, c.depth ≤ limit ∧
        (Above m.activity.bindings c.active.1 ∧ Above m.activity.calls c.active.2) ∧
        (m.activity.bindings.Nodup → c.active.1.Nodup) ∧ (m.activity.calls.Nodup → c.active.2.Nodup) := by
  obtain ⟨value, m', hvisit, hvalue, hcounters, news, hrecord, hnews⟩ := runs_visit p limit node place m rfl
  obtain ⟨hbindings, hcalls⟩ := Prod.mk.inj (congrArg Counters.active hcounters)
  refine ⟨value, m', fun extra => ?_, hvalue, congrArg Counters.depth hcounters, hbindings, hcalls, news,
    hrecord, fun c hc => ?_⟩
  · induction extra with
    | zero => exact hvisit
    | succ extra ih => exact Machine.visit_extends p limit _ node place m _ ih
  · obtain ⟨hdepth, habove⟩ := hnews c hc
    exact ⟨hdepth, habove, habove.1.nodup, habove.2.nodup⟩

end ComponentAtlas.Evaluation

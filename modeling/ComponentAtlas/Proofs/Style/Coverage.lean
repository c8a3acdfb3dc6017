import ComponentAtlas.Proofs.Source.Positions
import ComponentAtlas.Proofs.Style.Division

/-!
# Nothing in a style sheet is passed over silently

Every character of a style sheet that is neither white space nor a semicolon belongs to a rule or to a
problem. The same holds inside the block of every nesting rule, and in a block of declarations every
piece is a declaration or a problem.

* `Accounted`: a text all of which belongs to some spans;
* `Listed`: the declarations and the problems of the pieces of a block;
* `Rule.Complete`: a rule whose block is accounted for at every depth;
* `Covered`: a list of rules in order that accounts for a text; `Divided.covered`: rules and problems of
  a divided text do.
-/

namespace ComponentAtlas.Style

open ComponentAtlas.Text ComponentAtlas.Source

/-- The span of a rule. -/
def Rule.span : Rule → Span
  | .style _ _ span => span
  | .at _ _ _ span => span

/-- Every character of a text at an offset is white space or a semicolon, or lies inside one of the
spans. -/
def Accounted (spans : List Span) : ℕ → List Char → Prop
  | _, [] => True
  | offset, c :: cs =>
    (isAsciiBlank c ∨ c = ';' ∨
        ∃ s ∈ spans, s.start.offset ≤ offset ∧ offset + c.utf8Size ≤ s.stop.offset) ∧
      Accounted spans (offset + c.utf8Size) cs

/-- The problems between two offsets. -/
def problemsWithin (lo hi : ℕ) (problems : List Problem) : List Problem :=
  problems.filter fun p => lo ≤ p.span.start.offset && p.span.stop.offset ≤ hi

/-- What one piece of a block of declarations yields: nothing if it is blank, and one declaration or one
problem else. -/
inductive Yields (source : List Char) (offset : ℕ) (piece : List Char) : List Declaration → List Problem → Prop
  | blank (trim_eq : trim piece = []) : Yields source offset piece [] []
  | declaration {d : Declaration} (nonblank : trim piece ≠ []) (some : declaration? (trim piece) = some d) :
      Yields source offset piece [d] []
  | problem {p : Problem} (nonblank : trim piece ≠ []) (none : declaration? (trim piece) = none)
      (covers : p.span.Covers source offset (offset + byteLength piece)) : Yields source offset piece [] [p]

/-- The declarations and the problems of the pieces between the semicolons of a block. -/
inductive Listed (source : List Char) : ℕ → List Char → List Declaration → List Problem → Prop
  | last {offset : ℕ} {piece : List Char} {ds : List Declaration} {ps : List Problem}
      (split : splitTop [';'] piece = none) (here : Yields source offset piece ds ps) :
      Listed source offset piece ds ps
  | more {offset : ℕ} {cs piece rest : List Char} {ds ds' : List Declaration} {ps ps' : List Problem}
      (split : splitTop [';'] cs = some (piece, ';', rest)) (here : Yields source offset piece ds ps)
      (rest : Listed source (offset + byteLength piece + 1) rest ds' ps') :
      Listed source offset cs (ds ++ ds') (ps ++ ps')

/-- The content of the block of a rule, with its offset: a title, a brace and a text that ends with the
block make up the span of the rule. -/
def Encloses (source : List Char) (span : Span) (offset : ℕ) (body : List Char) : Prop :=
  ∃ title text closed, Stands source span.start.offset (title ++ '\x7b' :: text) ∧
    span.stop.offset = span.start.offset + byteLength (title ++ '\x7b' :: text) ∧
    splitTop titleEnds (title ++ '\x7b' :: text) = some (title, '\x7b', text) ∧
    openBlock text = ⟨body, closed, []⟩ ∧ offset = span.start.offset + byteLength title + 1

/-- A rule whose block is accounted for by what was read in it: rules one after the other and the
problems inside the block, or the declarations and problems of its pieces. -/
inductive Rule.Complete (source : List Char) (problems : List Problem) : Rule → Prop
  | bare {name prelude : String} {span : Span} {text : List Char} (stands : Stands source span.start.offset text)
      (stop : span.stop.offset = span.start.offset + byteLength text) (split : splitTop braces text = none) :
      Rule.Complete source problems (.at name prelude none span)
  | style {selectors : List String} {ds : List Declaration} {span : Span} {offset : ℕ} {body : List Char}
      (block : Encloses source span offset body)
      (listed : Listed source offset body ds (problemsWithin offset (offset + byteLength body) problems)) :
      Rule.Complete source problems (.style selectors ds span)
  | declarations {name prelude : String} {ds : List Declaration} {span : Span} {offset : ℕ} {body : List Char}
      (block : Encloses source span offset body)
      (listed : Listed source offset body ds (problemsWithin offset (offset + byteLength body) problems)) :
      Rule.Complete source problems (.at name prelude (some (.declarations ds)) span)
  | rules {name prelude : String} {inner : List Rule} {span : Span} {offset : ℕ} {body : List Char}
      (block : Encloses source span offset body)
      (within : ∀ r ∈ inner, r.span.Within span)
      (order : InOrder offset (inner.map Rule.span) (offset + byteLength body))
      (accounted : Accounted (inner.map Rule.span ++
        (problemsWithin offset (offset + byteLength body) problems).map (·.span)) offset body)
      (complete : ∀ r ∈ inner, Rule.Complete source problems r) :
      Rule.Complete source problems (.at name prelude (some (.rules inner)) span)

/-- A text at an offset for which rules in order and problems account. -/
structure Covered (source : List Char) (offset : ℕ) (cs : List Char) (rules : List Rule)
    (problems : List Problem) : Prop where
  order : InOrder offset (rules.map Rule.span) (offset + byteLength cs)
  accounted : Accounted (rules.map Rule.span ++ problems.map (·.span)) offset cs
  complete : ∀ r ∈ rules, r.Complete source problems
  inside : ∀ p ∈ problems, offset ≤ p.span.start.offset ∧ p.span.start.offset < p.span.stop.offset ∧
    p.span.stop.offset ≤ offset + byteLength cs

variable {source cs as bs text body : List Char} {offset lo hi start : ℕ} {spans spans' : List Span} {s span : Span}
  {ps ps' : List Problem} {ds : List Declaration} {rules : List Rule} {r : Rule} {p : Problem}

/-! ### Accounts -/

theorem Accounted.mono (h : Accounted spans offset cs) (hsub : spans ⊆ spans') : Accounted spans' offset cs := by
  induction cs generalizing offset with
  | nil => trivial
  | cons c cs ih =>
    refine ⟨h.1.imp_right (Or.imp_right ?_), ih h.2⟩
    rintro ⟨s, hs, hcovers⟩
    exact ⟨s, hsub hs, hcovers⟩

theorem Accounted.append (has : Accounted spans offset as) (hbs : Accounted spans (offset + byteLength as) bs) :
    Accounted spans offset (as ++ bs) := by
  induction as generalizing offset with
  | nil => exact hbs
  | cons a as ih =>
    refine ⟨has.1, ih has.2 ?_⟩
    rwa [byteLength_cons, ← Nat.add_assoc] at hbs

theorem accounted_of_mem (hs : s ∈ spans) (hstart : s.start.offset ≤ offset)
    (hstop : offset + byteLength cs ≤ s.stop.offset) : Accounted spans offset cs := by
  induction cs generalizing offset with
  | nil => trivial
  | cons c cs ih =>
    rw [byteLength_cons, ← Nat.add_assoc] at hstop
    exact ⟨.inr (.inr ⟨s, hs, hstart, by omega⟩), ih (by omega) hstop⟩

/-! ### Problems inside a block -/

theorem problemsWithin_append : problemsWithin lo hi (ps ++ ps') = problemsWithin lo hi ps ++ problemsWithin lo hi ps' :=
  List.filter_append ..

theorem problemsWithin_eq_nil (h : ∀ p ∈ ps, p.span.start.offset < lo ∨ hi < p.span.stop.offset) :
    problemsWithin lo hi ps = [] := by
  refine List.filter_eq_nil_iff.2 fun p hp => ?_
  have := h p hp
  simp only [Bool.and_eq_true, decide_eq_true_eq]
  omega

theorem problemsWithin_eq_self (h : ∀ p ∈ ps, lo ≤ p.span.start.offset ∧ p.span.stop.offset ≤ hi) :
    problemsWithin lo hi ps = ps := by
  refine List.filter_eq_self.2 fun p hp => ?_
  simpa using h p hp

/-! ### Declarations -/

theorem Yields.inside (h : Yields source offset cs ds ps) :
    ∀ p ∈ ps, offset ≤ p.span.start.offset ∧ p.span.start.offset < p.span.stop.offset ∧
      p.span.stop.offset ≤ offset + byteLength cs := by
  intro p hp
  cases h with
  | blank => cases hp
  | declaration => cases hp
  | problem nonblank _ covers =>
    obtain rfl := List.mem_singleton.1 hp
    have hpos : 0 < byteLength cs := by
      cases cs with
      | nil => exact absurd rfl nonblank
      | cons c cs => exact Nat.add_pos_left c.utf8Size_pos _
    rw [covers.start, covers.stop]
    omega

theorem Listed.inside (h : Listed source offset cs ds ps) :
    ∀ p ∈ ps, offset ≤ p.span.start.offset ∧ p.span.start.offset < p.span.stop.offset ∧
      p.span.stop.offset ≤ offset + byteLength cs := by
  induction h with
  | last split here => exact here.inside
  | @more offset cs piece rest ds ds' ps ps' split here more ih =>
    have hlength : byteLength cs = byteLength piece + (1 + byteLength rest) := by
      rw [splitTopFrom_append split]
      exact byteLength_append _ _
    intro p hp
    rcases List.mem_append.1 hp with hp | hp
    · have := here.inside p hp
      omega
    · have := ih p hp
      omega

theorem declarationPiece_yields (h : Stands source offset cs) :
    Yields source offset cs (declarationPiece (Lines.ofText source) offset cs).1
      (declarationPiece (Lines.ofText source) offset cs).2 := by
  rw [declarationPiece]
  split
  · rename_i hblank
    exact .blank (List.isEmpty_iff.1 hblank)
  · rename_i hblank
    have hne : trim cs ≠ [] := fun hnil => hblank (List.isEmpty_iff.2 hnil)
    split
    · rename_i hsome
      exact .declaration hne hsome
    · rename_i hnone
      exact .problem hne hnone (h.covers rfl)

theorem declarations_listed (h : Stands source offset cs) :
    Listed source offset cs (declarations (Lines.ofText source) offset cs).1
      (declarations (Lines.ofText source) offset cs).2 := by
  induction hn : cs.length using Nat.strongRecOn generalizing offset cs with
  | _ n ih =>
    subst hn
    rw [declarations]
    split
    · rename_i hsplit
      exact .last hsplit (declarationPiece_yields h)
    · rename_i piece mark rest hsplit
      obtain rfl : mark = ';' := List.mem_singleton.1 (isMark_of_splitTop hsplit).1
      have hlength := splitTop_length hsplit
      have hcs : cs = piece ++ [';'] ++ rest := by simpa using splitTopFrom_append hsplit
      rw [hcs] at h
      have hrest : Stands source (offset + byteLength piece + 1) rest := by
        have := h.right
        rwa [byteLength_semicolon, ← Nat.add_assoc] at this
      exact .more hsplit (declarationPiece_yields h.left.left) (ih rest.length (by omega) hrest rfl)

/-! ### Rules -/

theorem Encloses.bounds (h : Encloses source span offset body) :
    span.start.offset < offset ∧ offset + byteLength body ≤ span.stop.offset := by
  obtain ⟨title, text, closed, -, hstop, -, hblock, rfl⟩ := h
  have hlength : byteLength (title ++ '\x7b' :: text) = byteLength title + (1 + byteLength text) :=
    byteLength_append _ _
  obtain ⟨text', htext, -, -, hbody⟩ := exists_block text
  rw [hblock, List.append_nil] at htext
  subst htext
  simp only [hblock] at hbody
  omega

/-- Only the problems inside its block matter to a rule. -/
theorem Rule.Complete.congr (h : r.Complete source ps)
    (hsame : ∀ lo hi, r.span.start.offset < lo → hi ≤ r.span.stop.offset →
      problemsWithin lo hi ps' = problemsWithin lo hi ps) : r.Complete source ps' := by
  induction h with
  | bare stands stop split => exact .bare stands stop split
  | style block listed =>
    have hbounds := block.bounds
    exact .style block (by rwa [hsame _ _ hbounds.1 hbounds.2])
  | declarations block listed =>
    have hbounds := block.bounds
    exact .declarations block (by rwa [hsame _ _ hbounds.1 hbounds.2])
  | rules block within order accounted complete ih =>
    have hbounds := block.bounds
    refine .rules block within order (by rwa [hsame _ _ hbounds.1 hbounds.2]) fun r hr => ih r hr ?_
    intro lo hi hlo hhi
    have hwithin := within r hr
    exact hsame lo hi (Nat.lt_of_le_of_lt hwithin.start hlo) (Nat.le_trans hhi hwithin.stop)

/-- Problems that are not inside the span of a rule. -/
def Outside (span : Span) (ps : List Problem) : Prop :=
  ∀ p ∈ ps, p.span.start.offset ≤ span.start.offset ∨ span.stop.offset < p.span.stop.offset

theorem Outside.problemsWithin (h : Outside span ps) (hlo : span.start.offset < lo) (hhi : hi ≤ span.stop.offset) :
    problemsWithin lo hi ps = [] := by
  refine problemsWithin_eq_nil fun p hp => ?_
  have := h p hp
  omega

theorem Rule.Complete.append_left (h : r.Complete source ps) (hout : Outside r.span ps') :
    r.Complete source (ps' ++ ps) := by
  refine h.congr fun lo hi hlo hhi => ?_
  rw [problemsWithin_append, hout.problemsWithin hlo hhi, List.nil_append]

theorem Rule.Complete.append_right (h : r.Complete source ps) (hout : Outside r.span ps') :
    r.Complete source (ps ++ ps') := by
  refine h.congr fun lo hi hlo hhi => ?_
  rw [problemsWithin_append, hout.problemsWithin hlo hhi, List.append_nil]

/-! ### Covered texts -/

theorem Covered.append {rules' : List Rule} (has : Covered source offset as rules ps)
    (hbs : Covered source (offset + byteLength as) bs rules' ps') :
    Covered source offset (as ++ bs) (rules ++ rules') (ps ++ ps') := by
  refine ⟨?_, ?_, ?_, ?_⟩
  · rw [List.map_append, byteLength_append, ← Nat.add_assoc]
    exact inOrder_append.2 ⟨_, has.order, hbs.order⟩
  · refine (has.accounted.mono ?_).append (hbs.accounted.mono ?_)
    · simp only [List.map_append]
      grind
    · simp only [List.map_append]
      grind
  · intro r hr
    rcases List.mem_append.1 hr with hr | hr
    · refine (has.complete r hr).append_right fun p hp => .inr ?_
      have hstop := has.order.stop_le (List.mem_map_of_mem hr)
      have := hbs.inside p hp
      omega
    · refine (hbs.complete r hr).append_left fun p hp => .inl ?_
      have hstart := hbs.order.le_start (List.mem_map_of_mem hr)
      have := has.inside p hp
      omega
  · intro p hp
    rw [byteLength_append]
    rcases List.mem_append.1 hp with hp | hp
    · have := has.inside p hp
      omega
    · have := hbs.inside p hp
      omega

/-- A single rule covers its own text. -/
theorem covered_singleton (hstart : r.span.start.offset = start)
    (hstop : r.span.stop.offset = start + byteLength text) (hr : r.Complete source ps)
    (hinside : ∀ p ∈ ps, start ≤ p.span.start.offset ∧ p.span.start.offset < p.span.stop.offset ∧
      p.span.stop.offset ≤ start + byteLength text) : Covered source start text [r] ps := by
  refine ⟨⟨hstart.ge, by omega, hstop.le⟩, ?_, ?_, hinside⟩
  · exact accounted_of_mem (s := r.span) (by simp) hstart.le hstop.ge
  · intro r' hr'
    rwa [List.mem_singleton.1 hr']

variable {t : Title} {closed : Bool} {own : List Problem}

theorem Title.Heads.encloses (heads : t.Heads text body closed)
    (stands : Stands source start (t.text ++ '\x7b' :: text)) :
    Encloses source ((Lines.ofText source).span start (start + byteLength (t.text ++ '\x7b' :: text)))
      (start + byteLength t.text + 1) body :=
  ⟨t.text, text, closed, stands, rfl, heads.split, heads.block, rfl⟩

/-- The content of a block stands behind the title and the brace. -/
theorem Title.Heads.stands_body (heads : t.Heads text body closed)
    (stands : Stands source start (t.text ++ '\x7b' :: text)) :
    Stands source (start + byteLength t.text + 1) body := by
  obtain ⟨tail, htail⟩ := openBlock_body_append text
  rw [heads.block] at htail
  subst htail
  have hcut : Stands source start (t.text ++ ['\x7b'] ++ (body ++ tail)) := by simpa using stands
  have hbody := hcut.right.left
  rwa [byteLength_append, ← Nat.add_assoc] at hbody

/-- The problems of a rule: those of the whole rule and those inside its block. -/
theorem inside_of_block (block : Encloses source span offset body) (hspan : span.start.offset < span.stop.offset)
    (hown : ∀ p ∈ own, p.span = span)
    (hps : ∀ p ∈ ps, offset ≤ p.span.start.offset ∧ p.span.start.offset < p.span.stop.offset ∧
      p.span.stop.offset ≤ offset + byteLength body) :
    (∀ p ∈ own ++ ps, span.start.offset ≤ p.span.start.offset ∧ p.span.start.offset < p.span.stop.offset ∧
      p.span.stop.offset ≤ span.stop.offset) ∧
    problemsWithin offset (offset + byteLength body) (own ++ ps) = ps := by
  have hbounds := block.bounds
  refine ⟨fun p hp => ?_, ?_⟩
  · rcases List.mem_append.1 hp with hp | hp
    · rw [hown p hp]
      omega
    · have := hps p hp
      omega
  · rw [problemsWithin_append, problemsWithin_eq_nil, problemsWithin_eq_self, List.nil_append]
    · exact fun p hp => ⟨(hps p hp).1, (hps p hp).2.2⟩
    · intro p hp
      rw [hown p hp]
      exact .inl hbounds.1

theorem Part.covered (h : Part (Lines.ofText source) start text rules ps) (stands : Stands source start text) :
    Covered source start text rules ps := by
  cases h with
  | semicolon => exact ⟨by simp [InOrder], ⟨.inr (.inl rfl), trivial⟩, by simp, by simp⟩
  | @malformed bad mark message nonempty hmark =>
    have hbad : 0 < byteLength bad := by
      obtain ⟨c, bad, rfl⟩ := List.exists_cons_of_ne_nil nonempty
      exact Nat.add_pos_left c.utf8Size_pos _
    refine ⟨by simp [InOrder], ?_, by simp, ?_⟩
    · refine Accounted.append (accounted_of_mem List.mem_cons_self (Nat.le_refl _) (Nat.le_refl _)) ?_
      rcases hmark with rfl | rfl
      · trivial
      · exact ⟨.inr (.inl rfl), trivial⟩
    · intro p hp
      rw [List.mem_singleton.1 hp, byteLength_append]
      simp [problem, Lines.span]
      omega
  | @bare mark name prelude _ own proper text_eq split problems =>
    refine covered_singleton rfl rfl (.bare stands rfl split) fun p hp => ?_
    have hpos : 0 < byteLength text := by
      rw [text_eq]
      exact Nat.add_pos_left (Char.utf8Size_pos _) _
    rw [problems p hp]
    simp [Lines.span]
    omega
  | @declaring t text body _ closed own heads whole_eq problems =>
    subst whole_eq
    have block := heads.encloses stands
    have listed := declarations_listed (heads.stands_body stands)
    have hbounds := block.bounds
    obtain ⟨hinside, hwithin⟩ := inside_of_block block (by omega) problems listed.inside
    rw [← hwithin] at listed
    refine covered_singleton ?_ ?_ ?_ hinside
    · cases t <;> rfl
    · cases t <;> rfl
    · cases t with
      | selectors text => exact .style block listed
      | named name prelude => exact .declarations block listed

/-- All rules and problems of a divided text account for it, at every depth. -/
theorem Divided.covered (h : Divided (Lines.ofText source) start cs rules ps) (stands : Stands source start cs) :
    Covered source start cs rules ps := by
  induction h with
  | nil => exact ⟨by simp [InOrder], trivial, by simp, by simp⟩
  | @blank start c cs rules ps hc more ih =>
    have hcut : Stands source start ([c] ++ cs) := stands
    have hblank : Covered source start [c] [] [] := ⟨by simp [InOrder], ⟨.inl hc, trivial⟩, by simp, by simp⟩
    exact hblank.append (ih hcut.right)
  | part here more ih => exact (here.covered stands.left).append (ih stands.right)
  | @nesting start name prelude text body whole cs closed inner rules own ps' ps heads whole_eq problems inside more
      ihInside ihMore =>
    subst whole_eq
    have block := heads.encloses stands.left
    have hinner := ihInside (heads.stands_body stands.left)
    have hbounds := block.bounds
    obtain ⟨hinside, hwithin⟩ := inside_of_block block (by omega) problems hinner.inside
    have hspans : ∀ r ∈ inner, start + byteLength (Title.named name prelude).text + 1 ≤ r.span.start.offset ∧
        r.span.stop.offset ≤ start + byteLength (Title.named name prelude).text + 1 + byteLength body := fun r hr =>
      ⟨hinner.order.le_start (List.mem_map_of_mem hr), hinner.order.stop_le (List.mem_map_of_mem hr)⟩
    refine (covered_singleton rfl rfl (.rules block (fun r hr => ?_) hinner.order (by rw [hwithin]; exact hinner.accounted)
      fun r hr => ?_) hinside).append (ihMore stands.right)
    · have := hspans r hr
      exact ⟨by omega, by omega⟩
    · refine (hinner.complete r hr).append_left fun p hp => .inl ?_
      have := hspans r hr
      rw [problems p hp]
      omega

end ComponentAtlas.Style

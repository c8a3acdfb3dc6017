import ComponentAtlas.Proofs.Source.Bytes
import ComponentAtlas.Proofs.Style.Coverage

/-!
# Positions behind comments

Every character of a comment is replaced by one of one byte, so behind a comment with a longer character
all offsets are too small. Lines are never affected, and what stands at a position is what the rule or
the problem is about, once the missing bytes are added.

* `commentMarks`: the characters of a text, each with whether it stands in a comment;
* `excess`: the bytes that comments lose;
* `Refers`: the place in the text to which a position refers, and when it is the position of that place;
* `positions_refer`: all positions of a style sheet refer to places in its text.
-/

namespace ComponentAtlas.Style

open ComponentAtlas.Text ComponentAtlas.Source

/-- The characters of a text, each with whether it stands in a comment. -/
def commentMarks (cs : List Char) : List (Char × Bool) :=
  match cs with
  | [] => []
  | c :: rest =>
    match _h : comment? (c :: rest) with
    | some (body, after) => body.map (·, true) ++ commentMarks after
    | none => (c, false) :: commentMarks rest
termination_by cs.length
decreasing_by
  · exact comment?_length _h
  · simp

/-- What is read in the place of a character. -/
def shown (m : Char × Bool) : Char := if m.2 then blanked m.1 else m.1

/-- The number of bytes that are lost when comments are blanked. -/
def excess : List (Char × Bool) → ℕ
  | [] => 0
  | (c, inComment) :: ms => (if inComment then c.utf8Size - 1 else 0) + excess ms

/-- The place in a text to which a position refers. The line is that of the place, the offset lacks what
comments in front of it lose, and the position is that of the place exactly if all characters of these
comments are one byte long. -/
structure Refers (text : List Char) (p : Position) (before after : List (Char × Bool)) : Prop where
  cut : commentMarks text = before ++ after
  line : p.line = (before.map Prod.fst).count '\n'
  offset : p.offset + excess before = byteLength (before.map Prod.fst)
  exact : p = .behind (before.map Prod.fst) ↔ ∀ m ∈ before, m.2 = true → isAscii m.1

/-- A rule among others or inside one of them. -/
inductive Occurs (r : Rule) : List Rule → Prop
  | here {rules : List Rule} (mem : r ∈ rules) : Occurs r rules
  | inside {rules inner : List Rule} {name prelude : String} {span : Span}
      (mem : .at name prelude (some (.rules inner)) span ∈ rules) (deeper : Occurs r inner) : Occurs r rules

/-- A text that begins as a rule does: with its name behind an `@`, or with the first character of its first
selector. In front of that one there may be a comma or white space other than that of markup. -/
def Rule.Begins (text : List Char) : Rule → Prop
  | .style selectors _ _ => ∀ s ∈ selectors.head?, ∃ c ∈ text.head?,
      s.toList.head? = some c ∨ c = ',' ∨ (isBlank c ∧ isAsciiBlank c = false)
  | .at name _ _ _ => ∃ rest, text = '@' :: (name.toList ++ rest)

variable {cs as bs text body source : List Char} {ms before after : List (Char × Bool)} {p : Position}
  {start : ℕ} {rules : List Rule} {ps : List Problem} {r : Rule}

/-! ### Comments -/

theorem commentEnd_append {a b : List Char} (h : commentEnd cs = some (a, b)) : cs = a ++ b := by
  fun_induction commentEnd cs generalizing a b with
  | case1 rest =>
    cases h
    rfl
  | case2 c cs hne ih =>
    obtain ⟨⟨a', b'⟩, hs, hab⟩ := Option.map_eq_some_iff.1 h
    cases hab
    rw [ih hs]
    rfl
  | case3 => cases h

theorem comment?_append {a b : List Char} (h : comment? cs = some (a, b)) : cs = a ++ b := by
  unfold comment? at h
  split at h
  · obtain ⟨⟨a', b'⟩, hs, hab⟩ := Option.map_eq_some_iff.1 h
    cases hab
    rw [commentEnd_append hs]
    rfl
  · cases h

/-- The marked characters are those of the text, and what is shown of them is the text that is read. -/
theorem commentMarks_eq (cs : List Char) :
    (commentMarks cs).map Prod.fst = cs ∧ (commentMarks cs).map shown = blankComments cs := by
  fun_induction commentMarks cs with
  | case1 => simp [blankComments]
  | case2 c rest body after h ih =>
    rw [blankComments]
    split
    · rename_i body' after' h'
      cases h.symm.trans h'
      have happend := comment?_append h
      simp [ih.1, ih.2, happend, shown, Function.comp_def]
    · rename_i hnone
      cases h.symm.trans hnone
  | case3 c rest h ih =>
    rw [blankComments]
    split
    · rename_i body' after' h'
      cases h.symm.trans h'
    · simp [ih.1, ih.2, shown]

theorem utf8Size_blanked (c : Char) : (blanked c).utf8Size = 1 := by
  unfold blanked
  split <;> rfl

theorem byteLength_shown (ms : List (Char × Bool)) :
    byteLength (ms.map shown) + excess ms = byteLength (ms.map Prod.fst) := by
  induction ms with
  | nil => rfl
  | cons m ms ih =>
    obtain ⟨c, inComment⟩ := m
    have hpos := c.utf8Size_pos
    have hblanked := utf8Size_blanked c
    cases inComment with
    | false =>
      simp only [List.map_cons, byteLength_cons, excess, shown]
      simp
      omega
    | true =>
      simp only [List.map_cons, byteLength_cons, excess, shown]
      simp
      omega

theorem blanked_eq_newline (c : Char) : blanked c = '\n' ↔ c = '\n' := by
  unfold blanked
  split <;> simp_all

theorem shown_eq_newline (m : Char × Bool) : shown m = '\n' ↔ m.1 = '\n' := by
  unfold shown
  split
  · exact blanked_eq_newline m.1
  · rfl

/-- What is no white space is no part of a comment. -/
theorem eq_of_shown {m : Char × Bool} {c : Char} (h : shown m = c) (hc : isAsciiBlank c = false) : m = (c, false) := by
  obtain ⟨d, inComment⟩ := m
  cases inComment with
  | false => rw [← h]; rfl
  | true =>
    have hblank : isAsciiBlank (blanked d) = true := by
      unfold blanked
      split <;> rfl
    have h : blanked d = c := h
    rw [h, hc] at hblank
    cases hblank

theorem count_shown (ms : List (Char × Bool)) : (ms.map shown).count '\n' = (ms.map Prod.fst).count '\n' := by
  induction ms with
  | nil => rfl
  | cons m ms ih => simp [List.count_cons, ih, shown_eq_newline]

theorem lastLine_map {f : Char × Bool → Char} (hf : ∀ m, f m = '\n' ↔ m.1 = '\n') (ms : List (Char × Bool)) :
    lastLine (ms.map f) = (ms.reverse.takeWhile (fun m => m.1 != '\n')).reverse.map f := by
  have hstop : (fun c => c != '\n') ∘ f = fun m : Char × Bool => m.1 != '\n' := by
    funext m
    simp [bne, hf m, Bool.beq_eq_decide_eq]
  rw [lastLine, ← List.map_reverse, List.takeWhile_map, hstop, List.map_reverse]

theorem utf8Size_eq_one (c : Char) : c.utf8Size = 1 ↔ isAscii c := by
  refine ⟨fun h => ?_, utf8Size_of_isAscii⟩
  exact decide_eq_true (Nat.lt_succ_of_le (UInt32.le_iff_toNat_le.1 (Char.utf8Size_eq_one_iff.1 h)))

theorem excess_eq_zero : excess ms = 0 ↔ ∀ m ∈ ms, m.2 = true → isAscii m.1 := by
  induction ms with
  | nil => simp [excess]
  | cons m ms ih =>
    obtain ⟨c, inComment⟩ := m
    have hpos := c.utf8Size_pos
    rw [excess, Nat.add_eq_zero_iff, ih, List.forall_mem_cons]
    cases inComment with
    | false => simp
    | true =>
      have hone : c.utf8Size - 1 = 0 ↔ c.utf8Size = 1 := by omega
      simp only [if_true, forall_const, ← utf8Size_eq_one, hone]

/-- The position found for a place is its own exactly if nothing is lost in front of it. -/
theorem behind_shown_eq_iff (ms : List (Char × Bool)) :
    Position.behind (ms.map shown) = .behind (ms.map Prod.fst) ↔ excess ms = 0 := by
  have hlength := byteLength_shown ms
  constructor
  · intro h
    have : byteLength (ms.map shown) = byteLength (ms.map Prod.fst) := congrArg Position.offset h
    omega
  · intro h
    -- Nothing is lost in the last line either.
    have hline : excess (ms.reverse.takeWhile fun m => m.1 != '\n').reverse = 0 := by
      refine excess_eq_zero.2 fun m hm => excess_eq_zero.1 h m ?_
      exact List.mem_reverse.1 ((List.takeWhile_subset _) (List.mem_reverse.1 hm))
    have hlast := byteLength_shown (ms.reverse.takeWhile fun m => m.1 != '\n').reverse
    rw [Position.behind, Position.behind, count_shown, lastLine_map shown_eq_newline, lastLine_map fun _ => Iff.rfl]
    simp only [Position.mk.injEq, true_and]
    omega

theorem refers_of_behind (h : blankComments text = as ++ bs) :
    ∃ before after, Refers text (.behind as) before after ∧ after.map shown = bs := by
  rw [← (commentMarks_eq text).2] at h
  obtain ⟨before, after, hcut, rfl, rfl⟩ := List.map_eq_append_iff.1 h
  exact ⟨before, after, ⟨hcut, count_shown before, byteLength_shown before,
    (behind_shown_eq_iff before).trans excess_eq_zero⟩, rfl⟩

theorem refers_of_marks (h : p.Marks (blankComments text)) : ∃ before after, Refers text p before after := by
  obtain ⟨as, bs, hcut, rfl⟩ := h
  obtain ⟨before, after, hrefers, -⟩ := refers_of_behind hcut
  exact ⟨before, after, hrefers⟩

/-! ### Rules and problems -/

/-- A text that begins with the title of a rule. -/
inductive Rule.Headed : Rule → List Char → Prop
  | style {title rest : List Char} {ds : List Declaration} {span : Span}
      (proper : ∀ c ∈ title.head?, isAsciiBlank c = false) :
      Rule.Headed (.style (selectors title) ds span) (title ++ rest)
  | at {name rest : List Char} {prelude : String} {block : Option Block} {span : Span}
      (proper : ∀ c ∈ name, isAtNameChar c) :
      Rule.Headed (.at (String.ofList name) prelude block span) ('@' :: (name ++ rest))

/-- A rule whose span is that of a text with its title in front. -/
def Rule.Located (source : List Char) (r : Rule) : Prop :=
  ∃ offset text, Stands source offset text ∧ r.span = (Lines.ofText source).span offset (offset + byteLength text) ∧
    r.Headed text

theorem Rule.Headed.append (h : r.Headed as) (bs : List Char) : r.Headed (as ++ bs) := by
  cases h with
  | style proper =>
    rw [List.append_assoc]
    exact .style proper
  | «at» proper =>
    rw [List.cons_append, List.append_assoc]
    exact .at proper

theorem map_shown_of_plain (as : List Char) (has : ∀ c ∈ as, isAsciiBlank c = false) (h : ms.map shown = as ++ bs) :
    ∃ rest, ms.map Prod.fst = as ++ rest := by
  obtain ⟨before, after, rfl, hbefore, -⟩ := List.map_eq_append_iff.1 h
  have hsame : before.map Prod.fst = before.map shown := by
    refine List.map_congr_left fun m hm => ?_
    have hmem : shown m ∈ as := hbefore ▸ List.mem_map_of_mem hm
    have := eq_of_shown rfl (has _ hmem)
    rw [this]
    rfl
  exact ⟨after.map Prod.fst, by rw [List.map_append, hsame, hbefore]⟩

/-- What a rule begins with is no part of a comment. -/
theorem Rule.Headed.begins (h : r.Headed (after.map shown)) : r.Begins (after.map Prod.fst) := by
  generalize htext : after.map shown = text at h
  cases h with
  | @style title rest ds span proper =>
    intro s hs
    cases title with
    | nil => cases hs
    | cons c title =>
      have hc := proper c rfl
      obtain ⟨rest', hrest⟩ := map_shown_of_plain [c] (by simpa using hc) htext
      refine ⟨c, by rw [hrest]; rfl, ?_⟩
      by_cases hcomma : c = ','
      · exact .inr (.inl hcomma)
      · cases hblank : isBlank c with
        | true => exact .inr (.inr ⟨rfl, hc⟩)
        | false =>
          obtain ⟨t, ss, hselectors⟩ := head?_selectors title hcomma hblank
          rw [hselectors] at hs
          cases hs
          exact .inl (by simp)
  | @«at» name rest prelude block span proper =>
    have hplain : ∀ c ∈ '@' :: name, isAsciiBlank c = false := by
      refine List.forall_mem_cons.2 ⟨rfl, fun c hc => ?_⟩
      have hname := proper c hc
      by_contra hblank
      simp only [isAsciiBlank, Bool.not_eq_false, Bool.or_eq_true, beq_iff_eq] at hblank
      rcases hblank with (((rfl | rfl) | rfl) | rfl) | rfl <;> cases hname
    obtain ⟨rest', hrest⟩ := map_shown_of_plain ('@' :: name) hplain htext
    exact ⟨rest', by simpa using hrest⟩

theorem Occurs.append {rules' : List Rule} (h : Occurs r (rules ++ rules')) : Occurs r rules ∨ Occurs r rules' := by
  cases h with
  | here mem => exact (List.mem_append.1 mem).imp .here .here
  | inside mem deeper => exact (List.mem_append.1 mem).imp (.inside · deeper) (.inside · deeper)

theorem Occurs.cons {r' : Rule} (h : Occurs r (r' :: rules)) : Occurs r [r'] ∨ Occurs r rules := by
  have hcut : Occurs r ([r'] ++ rules) := h
  exact hcut.append

theorem Part.located (h : Part (Lines.ofText source) start text rules ps) (stands : Stands source start text)
    (occurs : Occurs r rules) : r.Located source := by
  cases h with
  | semicolon => cases occurs with
    | here mem => cases mem
    | inside mem _ => cases mem
  | malformed => cases occurs with
    | here mem => cases mem
    | inside mem _ => cases mem
  | bare mark proper text_eq split problems => cases occurs with
    | here mem =>
      cases List.mem_singleton.1 mem
      refine ⟨start, text, stands, rfl, ?_⟩
      rw [text_eq, List.append_assoc]
      exact .at proper
    | inside mem _ => cases List.mem_singleton.1 mem
  | @declaring t _ body _ closed own heads whole_eq problems => cases occurs with
    | here mem =>
      rw [List.mem_singleton.1 mem]
      refine ⟨start, text, stands, ?_, ?_⟩
      · cases t <;> rfl
      · subst whole_eq
        have hproper := heads.proper
        cases t with
        | selectors title => exact .style hproper
        | named name prelude =>
          rw [Title.text, List.cons_append, List.append_assoc]
          exact .at hproper
    | inside mem _ =>
      have := List.mem_singleton.1 mem
      cases t <;> cases this

theorem Divided.located (h : Divided (Lines.ofText source) start cs rules ps) (stands : Stands source start cs)
    (occurs : Occurs r rules) : r.Located source := by
  induction h with
  | nil => cases occurs with
    | here mem => cases mem
    | inside mem _ => cases mem
  | @blank start c cs rules ps hc more ih =>
    have hcut : Stands source start ([c] ++ cs) := stands
    exact ih hcut.right occurs
  | part here more ih =>
    rcases occurs.append with occurs | occurs
    · exact here.located stands.left occurs
    · exact ih stands.right occurs
  | @nesting start name prelude text body whole cs closed inner rules own ps' ps heads whole_eq problems inside more
      ihInside ihMore =>
    rcases occurs.cons with occurs | occurs
    · cases occurs with
      | here mem =>
        cases List.mem_singleton.1 mem
        refine ⟨start, whole, stands.left, rfl, ?_⟩
        rw [whole_eq, Title.text, List.cons_append, List.append_assoc]
        exact .at heads.proper
      | inside mem deeper =>
        cases List.mem_singleton.1 mem
        subst whole_eq
        exact ihInside (heads.stands_body stands.left) deeper
    · exact ihMore stands.right occurs

theorem Listed.proper {ds : List Declaration} {offset : ℕ} (h : Listed source offset cs ds ps) :
    ∀ p ∈ ps, p.span.Proper source := by
  have hhere : ∀ {offset piece ds ps}, Yields source offset piece ds ps → ∀ p ∈ ps, p.span.Proper source := by
    intro offset piece ds ps hyields p hp
    cases hyields with
    | blank => cases hp
    | declaration => cases hp
    | problem _ _ covers =>
      rw [List.mem_singleton.1 hp]
      exact covers.proper
  induction h with
  | last split here => exact hhere here
  | more split here more ih =>
    intro p hp
    exact (List.mem_append.1 hp).elim (hhere here p) (ih p)

theorem Part.proper (h : Part (Lines.ofText source) start text rules ps) (stands : Stands source start text) :
    ∀ p ∈ ps, p.span.Proper source := by
  intro p hp
  cases h with
  | semicolon => cases hp
  | malformed =>
    rw [List.mem_singleton.1 hp]
    exact (stands.left.covers rfl).proper
  | bare mark proper text_eq split problems =>
    rw [problems p hp]
    exact (stands.covers rfl).proper
  | declaring heads whole_eq problems =>
    rcases List.mem_append.1 hp with hp | hp
    · rw [problems p hp]
      exact (stands.covers rfl).proper
    · subst whole_eq
      exact (declarations_listed (heads.stands_body stands)).proper p hp

theorem Divided.proper (h : Divided (Lines.ofText source) start cs rules ps) (stands : Stands source start cs) :
    ∀ p ∈ ps, p.span.Proper source := by
  induction h with
  | nil => simp
  | @blank start c cs rules ps hc more ih =>
    have hcut : Stands source start ([c] ++ cs) := stands
    exact ih hcut.right
  | part here more ih =>
    intro p hp
    exact (List.mem_append.1 hp).elim (here.proper stands.left p) (ih stands.right p)
  | nesting heads whole_eq problems inside more ihInside ihMore =>
    intro p hp
    rcases List.mem_append.1 hp with hp | hp
    · rcases List.mem_append.1 hp with hp | hp
      · rw [problems p hp]
        exact (stands.left.covers rfl).proper
      · subst whole_eq
        exact ihInside (heads.stands_body stands.left) p hp
    · exact ihMore stands.right p hp

theorem Rule.Located.refers (h : r.Located (blankComments text)) :
    (∃ before after, Refers text r.span.start before after ∧ r.Begins (after.map Prod.fst)) ∧
      ∃ before after, Refers text r.span.stop before after := by
  obtain ⟨offset, whole, hstands, hspan, hheaded⟩ := h
  have hproper := (hstands.covers rfl).proper
  rw [hspan]
  refine ⟨?_, refers_of_marks hproper.stop⟩
  obtain ⟨as, bs, hcut, rfl⟩ := hstands
  rw [List.append_assoc] at hcut
  obtain ⟨before, after, hrefers, hafter⟩ := refers_of_behind hcut
  refine ⟨before, after, ?_, (hafter ▸ hheaded.append bs).begins⟩
  have hstart : ((Lines.ofText (blankComments text)).span (byteLength as) (byteLength as + byteLength whole)).start =
      .behind as := by
    rw [hcut]
    exact Lines.locate_behind as _
  rwa [hstart]

/-- All positions of a style sheet refer to places in its text, and every rule begins at the place of its
start. A position is that of its place exactly if no comment in front of it has a character of more than
one byte. -/
theorem positions_refer (text : String) :
    (∀ r, Occurs r (Sheet.read text).rules →
      (∃ before after, Refers text.toList r.span.start before after ∧ r.Begins (after.map Prod.fst)) ∧
        ∃ before after, Refers text.toList r.span.stop before after) ∧
    ∀ p ∈ (Sheet.read text).problems,
      (∃ before after, Refers text.toList p.span.start before after) ∧
        ∃ before after, Refers text.toList p.span.stop before after := by
  have hdivided := read_divided text
  refine ⟨fun r hr => (hdivided.located (stands_self _) hr).refers, fun p hp => ?_⟩
  have hproper := hdivided.proper (stands_self _) p hp
  exact ⟨refers_of_marks hproper.start, refers_of_marks hproper.stop⟩

/-- Behind a comment with a character of two bytes a selector is found one byte too early. -/
theorem selector_misplaced :
    (Sheet.read "/*é*/a\x7b\x7d").rules.map (fun r => (r.span.start, r.span.stop)) = [(⟨5, 0, 5⟩, ⟨8, 0, 8⟩)] ∧
      Position.behind "/*é*/".toList = ⟨6, 0, 6⟩ ∧
      Template.dropBytes? 5 "/*é*/a\x7b\x7d".toList = some "/a\x7b\x7d".toList := by
  decide +kernel

end ComponentAtlas.Style

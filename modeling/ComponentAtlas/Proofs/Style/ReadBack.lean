import ComponentAtlas.Proofs.Style.Division
import ComponentAtlas.Proofs.Style.Printing
import Mathlib.Data.List.DropRight

/-!
# Printed style sheets are read back

The texts between the marks of a printed rule mean nothing to a search, so each search ends at the mark
that was printed. What is printed in a block is balanced, and its end is found at every depth.

* `trim_padded`: white space around a plain text is taken away;
* `selectors_print`, `declarations_print`: the titles and blocks of what is printed;
* `Rule.balanced_print`: a printed rule leaves the search for the end of a block where it was;
* `readRules_print`: printed rules are read as themselves, also inside a block;
* `read_printRules`: a printed style sheet is read without problems and has the same rules again.
-/

namespace ComponentAtlas.Style

open ComponentAtlas.Text ComponentAtlas.Source

variable {lines : Lines} {start offset : ℕ} {c : Char} {cs as bs rest gap pad : List Char} {s name : String}
  {ss : List String} {ds : List Declaration} {d : Declaration} {used : List Char}

/-! ### White space -/

/-- White space in front of a text and behind it. -/
theorem trim_padded (pad : List Char) (hpad : ∀ c ∈ pad, c = ' ') (has : trim as = as) (tail : Bool) :
    trim (pad ++ (as ++ if tail then [' '] else [])) = as := by
  induction pad with
  | nil =>
    cases tail with
    | false => simpa using has
    | true =>
      cases as with
      | nil => rfl
      | cons a as =>
        have ha := isBlank_of_trim has
        rw [trim_cons ha] at has
        rw [List.nil_append, List.cons_append, trim_cons ha, if_pos rfl, trimEnd_blank rfl, has]
  | cons a pad ih =>
    obtain rfl := hpad a List.mem_cons_self
    rw [List.cons_append, trim_blank rfl, ih fun c hc => hpad c (List.mem_cons_of_mem _ hc)]

theorem PlainText.trim_eq {marks : List Char} (h : PlainText marks s) : trim s.toList = s.toList := by
  have htext := congrArg String.toList h.trimmed
  rwa [Text.trimmed, String.toList_ofList] at htext

theorem PlainText.ne {marks : List Char} (h : PlainText marks s) : ∀ c ∈ s.toList, ∀ m ∈ marks, c ≠ m := by
  rintro c hc m hm rfl
  exact h.chars c hc hm

/-! ### Selectors -/

theorem selectorPieces_append (has : ∀ c ∈ as, c ≠ '(' ∧ c ≠ ')' ∧ c ≠ '[' ∧ c ≠ ']' ∧ c ≠ ',') (rest : List Char) :
    selectorPieces 0 (as ++ rest) = prepend as (selectorPieces 0 rest) := by
  induction as with
  | nil => exact (prepend_nil 0 rest).symm
  | cons a as ih =>
    obtain ⟨h1, h2, h3, h4, h5⟩ := has a List.mem_cons_self
    rw [List.cons_append, selectorPieces_cons, ih fun c hc => has c (List.mem_cons_of_mem _ hc),
      if_neg (by simp [h1, h3]), if_neg (by simp [h2, h4]), if_neg (by simp [h5])]
    cases selectorPieces 0 rest <;> simp [prepend]

/-- A selector in front of which blanks may stand belongs to one piece. -/
theorem PlainText.selectorPieces_append (h : PlainText (',' :: '[' :: ']' :: marks) s) (hpad : ∀ c ∈ pad, c = ' ')
    (rest : List Char) :
    selectorPieces 0 (pad ++ (s.toList ++ rest)) = prepend (pad ++ s.toList) (selectorPieces 0 rest) := by
  rw [← List.append_assoc]
  refine Style.selectorPieces_append (fun c hc => ?_) rest
  rcases List.mem_append.1 hc with hc | hc
  · rw [hpad c hc]
    decide
  · have hmarks := h.ne c hc
    exact ⟨hmarks _ (by decide), hmarks _ (by decide), hmarks _ (by decide), hmarks _ (by decide),
      hmarks _ (by decide)⟩

theorem selectorPieces_print (pad : List Char) (hpad : ∀ c ∈ pad, c = ' ') (hne : ss ≠ [])
    (h : ∀ s ∈ ss, PlainText (',' :: '[' :: ']' :: marks) s) :
    (selectorPieces 0 (pad ++ (printSelectors ss ++ [' ']))).map trim = ss.map String.toList := by
  fun_induction printSelectors ss generalizing pad with
  | case1 => exact absurd rfl hne
  | case2 s =>
    have hs := h s List.mem_cons_self
    have htrim := trim_padded pad hpad hs.trim_eq true
    rw [hs.selectorPieces_append hpad]
    simpa [selectorPieces, prepend] using htrim
  | case3 s ss hlast ih =>
    have hs := h s List.mem_cons_self
    have htrim := trim_padded pad hpad hs.trim_eq false
    have hmore := ih [' '] (by simp) (fun hnil => hlast hnil) fun t ht => h t (List.mem_cons_of_mem _ ht)
    have hcomma : selectorPieces 0 (',' :: ' ' :: (printSelectors ss ++ [' '])) =
        [] :: selectorPieces 0 ([' '] ++ (printSelectors ss ++ [' '])) := by
      rw [selectorPieces_cons]
      rfl
    rw [List.append_assoc, List.cons_append, List.cons_append, hs.selectorPieces_append hpad, hcomma, prepend,
      List.map_cons, hmore]
    simpa using htrim

theorem selectors_print (h : PlainSelectors ss) : selectors (printSelectors ss ++ [' ']) = ss := by
  have hpieces := selectorPieces_print [] (by simp) h.nonempty fun s hs => (h.selectors s hs).2
  have hkeep : (ss.map String.toList).filter (fun s => !s.isEmpty) = ss.map String.toList := by
    refine List.filter_eq_self.2 fun t ht => ?_
    obtain ⟨s, hs, rfl⟩ := List.mem_map.1 ht
    simpa using (h.selectors s hs).1
  rw [List.nil_append] at hpieces
  rw [selectors, hpieces, hkeep, List.map_map]
  simp [Function.comp_def]

/-! ### Declarations -/

/-- The mark of importance stands behind the value and at most one blank. -/
theorem trim_important (h : trim as = as) :
    ∃ blank, trimEnd (as ++ blank) = as ∧
      trim (as ++ " !important".toList) = as ++ blank ++ "!important".toList := by
  cases as with
  | nil => exact ⟨[], rfl, by decide⟩
  | cons a as =>
    refine ⟨[' '], ?_, ?_⟩
    · rw [trimEnd_blank rfl, trimEnd_of_trim h]
    · have hend : as ++ " !important".toList = as ++ " !importan".toList ++ 't' :: [] := by simp
      rw [List.cons_append, trim_cons (isBlank_of_trim h), hend, trimEnd_append (by decide)]
      simp [trimEnd]

/-- The text of a printed declaration without its semicolon. -/
theorem declaration?_print (h : PlainDeclaration d) :
    declaration? (trim (' ' :: d.written)) = some d := by
  obtain ⟨property, value, important⟩ := d
  obtain ⟨hne, hproperty, hvalue, hunmarked⟩ := h
  dsimp only at *
  obtain ⟨c, cs, hcons⟩ : ∃ c cs, property.toList = c :: cs := List.exists_cons_of_ne_nil (by simpa using hne)
  have htrim := hproperty.trim_eq
  have hc : isBlank c = false := isBlank_of_trim (hcons ▸ htrim)
  have htext : ∀ y, trim (' ' :: (property.toList ++ ':' :: y)) = property.toList ++ ':' :: trimEnd y := by
    intro y
    rw [trim_blank rfl, hcons, List.cons_append, trim_cons hc, trimEnd_append (by decide), List.cons_append]
  have hcolon : ':' ∉ property.toList := fun hmem => hproperty.ne _ hmem _ (by decide) rfl
  have hproper : ((trim property.toList).isEmpty || property.toList.contains '\x7b') = false := by
    have hbrace : '\x7b' ∉ property.toList := fun hmem => hproperty.ne _ hmem _ (by decide) rfl
    simp [htrim, hne, hbrace]
  rw [Declaration.written, htext, declaration?, splitOnce_eq_some_iff.2 ⟨rfl, hcolon⟩]
  dsimp only
  rw [hproper, trim_trimEnd, trim_blank rfl, htrim]
  cases important with
  | false =>
    have hnone : dropLiteral? "!important".toList.reverse value.toList.reverse = none := by
      simpa [endsWith, dropEnd?] using hunmarked
    simp only [if_neg Bool.false_ne_true, List.append_nil, hvalue.trim_eq, hnone]
    simp
  | true =>
    obtain ⟨blank, hblank, hmark⟩ := trim_important hvalue.trim_eq
    rw [if_pos rfl, hmark, List.reverse_append, dropLiteral?_eq_some_iff.2 rfl]
    simp [hblank]

theorem PlainDeclaration.chars (h : PlainDeclaration d) : ∀ c ∈ d.written, c ∉ marks := by
  have himportant : ∀ c ∈ " !important".toList, c ∉ marks := by simp [marks]
  have hvalue : ∀ c ∈ d.value.toList ++ (if d.important then " !important".toList else []), c ∉ marks := by
    intro c hc
    rcases List.mem_append.1 hc with hc | hc
    · exact h.value.chars c hc
    · split at hc
      · exact himportant c hc
      · cases hc
  intro c hc
  rw [Declaration.written, List.mem_append, List.mem_cons, List.mem_cons] at hc
  rcases hc with hc | rfl | rfl | hc
  · exact fun hmark => h.property.chars c hc (List.mem_cons_of_mem _ hmark)
  · decide
  · decide
  · exact hvalue c hc

theorem clear_space {stops : List Char} (hstops : stops ⊆ marks) : Clear stops [' '] :=
  clear_of_marks hstops (List.forall_mem_singleton.2 (by decide))

theorem declarations_print (h : ∀ d ∈ ds, PlainDeclaration d) (lines : Lines) (offset : ℕ) :
    declarations lines offset (' ' :: ds.flatMap printDeclaration) = (ds, []) := by
  induction ds generalizing offset with
  | nil =>
    rw [declarations]
    rfl
  | cons d ds ih =>
    have hd := h d List.mem_cons_self
    have hclear : Clear [';'] (' ' :: d.written) :=
      (clear_space (by decide)).append (clear_of_marks (by decide) hd.chars)
    have hsplit := hclear.splitTop_append (s := ';') (by decide) (' ' :: ds.flatMap printDeclaration)
    have htext : ' ' :: (d :: ds).flatMap printDeclaration =
        ' ' :: d.written ++ ';' :: (' ' :: ds.flatMap printDeclaration) := by
      simp only [List.flatMap_cons, printDeclaration, List.append_assoc, List.cons_append, List.nil_append]
    have hpiece : ∀ offset, declarationPiece lines offset (' ' :: d.written) = ([d], []) := by
      intro offset
      have hdeclaration := declaration?_print hd
      have hne : (trim (' ' :: d.written)).isEmpty = false := by
        cases htrim : trim (' ' :: d.written) with
        | nil =>
          rw [htrim] at hdeclaration
          cases hdeclaration
        | cons => rfl
      rw [declarationPiece, hne, hdeclaration]
      rfl
    rw [htext, declarations]
    split
    · rename_i hnone
      rw [hsplit] at hnone
      cases hnone
    · rename_i hfound
      cases hsplit.symm.trans hfound
      rw [hpiece, ih fun e he => h e (List.mem_cons_of_mem _ he)]
      rfl

/-! ### Printed rules inside a block -/

theorem PlainSelectors.chars (h : ∀ s ∈ ss, PlainText (',' :: '[' :: ']' :: marks) s) :
    ∀ c ∈ printSelectors ss, c ∉ marks := by
  intro c hc
  fun_induction printSelectors ss with
  | case1 => cases hc
  | case2 s =>
    have hs := (h s List.mem_cons_self).chars c hc
    exact fun hmark => hs (by simp [hmark])
  | case3 s ss hlast ih =>
    rw [List.mem_append, List.mem_cons, List.mem_cons] at hc
    rcases hc with hc | rfl | rfl | hc
    · have hs := (h s List.mem_cons_self).chars c hc
      exact fun hmark => hs (by simp [hmark])
    · decide
    · decide
    · exact ih (fun t ht => h t (List.mem_cons_of_mem _ ht)) hc

/-- The title of a printed style rule. -/
theorem clear_selectors {stops : List Char} (hstops : stops ⊆ marks) (h : PlainSelectors ss) :
    Clear stops (printSelectors ss ++ [' ']) :=
  (clear_of_marks hstops (PlainSelectors.chars fun s hs => (h.selectors s hs).2)).append (clear_space hstops)

/-- What stands behind the name of a printed at-rule. -/
theorem clear_prelude {stops : List Char} {prelude : String} (hstops : stops ⊆ marks) (h : PlainText marks prelude) :
    Clear stops (' ' :: prelude.toList) :=
  (clear_space hstops).append (clear_of_marks hstops h.chars)

theorem balanced_declarations (h : ∀ d ∈ ds, PlainDeclaration d) : Balanced (' ' :: ds.flatMap printDeclaration) := by
  refine ((clear_space (by decide)).append ?_).balanced
  induction ds with
  | nil => exact clear_nil _
  | cons d ds ih =>
    have hd : Clear braces (printDeclaration d) :=
      (clear_of_marks (by decide) (h d List.mem_cons_self).chars).append (clear_semicolon.append (clear_space (by decide)))
    exact hd.append (ih fun e he => h e (List.mem_cons_of_mem _ he))

theorem balanced_gap (hgap : ∀ c ∈ gap, isAsciiBlank c) : Balanced gap := by
  induction gap with
  | nil => exact balanced_nil
  | cons c gap ih =>
    obtain ⟨hc, hgap⟩ := List.forall_mem_cons.1 hgap
    exact (clear_blank hc).of_titleEnds.balanced.append (ih hgap)

mutual

/-- A printed rule leaves the search for the end of a block where it was. -/
theorem Rule.balanced_print (hgap : ∀ c ∈ gap, isAsciiBlank c) : (r : Rule) → r.Plain → Balanced (r.print gap)
  | .style selectors ds _, h => by
    have htitle : Balanced (printSelectors selectors ++ [' ']) := (clear_selectors (by decide) h.1).balanced
    have hrule := htitle.append (balanced_declarations h.2).block
    simpa [Rule.print] using hrule
  | .at name prelude none _, h => by
    have hname := (clear_at_name h.1.chars).of_titleEnds
    have hrule := (hname.append ((clear_prelude (by decide) h.2).append clear_semicolon)).balanced
    simpa [Rule.print] using hrule
  | .at name prelude (some block) _, h => by
    have hname := (clear_at_name h.1.chars).of_titleEnds
    have htitle := (hname.append ((clear_prelude (by decide) h.2.1).append (clear_space (by decide)))).balanced
    have hrule := htitle.append (Block.balanced_print hgap name block h.2.2).block
    simpa [Rule.print] using hrule

/-- The content of a printed block leaves the search for its end where it was. -/
theorem Block.balanced_print (hgap : ∀ c ∈ gap, isAsciiBlank c) (name : String) :
    (block : Block) → block.Plain name → Balanced (' ' :: block.print gap)
  | .rules rules, h =>
    (clear_space (by decide)).balanced.append (balanced_printRules hgap rules h.2)
  | .declarations _, h => balanced_declarations h.2

theorem balanced_printRules (hgap : ∀ c ∈ gap, isAsciiBlank c) :
    (rules : List Rule) → PlainRules rules → Balanced (printRules gap rules)
  | [], _ => balanced_nil
  | r :: rules, h =>
    (Rule.balanced_print hgap r h.1).append ((balanced_gap hgap).append (balanced_printRules hgap rules h.2))

end

/-! ### Items -/

theorem isBlank_of_isAsciiBlank (h : isAsciiBlank c) : isBlank c := by
  simp only [isAsciiBlank, Bool.or_eq_true, beq_iff_eq] at h
  rcases h with (((rfl | rfl) | rfl) | rfl) | rfl <;> rfl

/-- A printed style rule begins with a character of its first selector. -/
theorem PlainSelectors.exists_cons (h : PlainSelectors ss) :
    ∃ c cs, printSelectors ss = c :: cs ∧ isAsciiBlank c = false ∧ c ≠ '\x7d' ∧ c ≠ ';' ∧ c ≠ '@' := by
  obtain ⟨s, ss, rfl⟩ := List.exists_cons_of_ne_nil h.nonempty
  obtain ⟨hne, hs⟩ := h.selectors s List.mem_cons_self
  obtain ⟨c, cs, hcons⟩ : ∃ c cs, s.toList = c :: cs := List.exists_cons_of_ne_nil (by simpa using hne)
  have hmem : c ∈ s.toList := by simp [hcons]
  have hblank : isBlank c = false := isBlank_of_trim (hcons ▸ hs.trim_eq)
  have hascii : isAsciiBlank c = false := by
    by_contra hc
    rw [isBlank_of_isAsciiBlank (by simpa using hc)] at hblank
    cases hblank
  have hat : c ≠ '@' := by
    rintro rfl
    exact h.start s rfl (by simp [hcons])
  refine ⟨c, ?_⟩
  cases ss with
  | nil => exact ⟨cs, hcons, hascii, hs.ne c hmem _ (by decide), hs.ne c hmem _ (by decide), hat⟩
  | cons t ss =>
    refine ⟨cs ++ ',' :: ' ' :: printSelectors (t :: ss), ?_, hascii, hs.ne c hmem _ (by decide),
      hs.ne c hmem _ (by decide), hat⟩
    rw [printSelectors, hcons, List.cons_append]
    simp

/-- A style rule whose block is closed. -/
theorem styleRule_of_closed {title body after : List Char} (hsplit : splitTop titleEnds cs = some (title, '\x7b', rest))
    (hblock : openBlock rest = ⟨body, true, after⟩) (hds : ∀ offset, declarations lines offset body = (ds, [])) :
    ∃ span stop, styleRule lines start cs = ⟨.rule (.style (selectors title) ds span), [], stop, after⟩ := by
  rw [styleRule, hsplit]
  simp only [hblock, hds]
  exact ⟨_, _, rfl⟩

theorem styleRule_print (hss : PlainSelectors ss) (hds : ∀ d ∈ ds, PlainDeclaration d) (lines : Lines) (start : ℕ)
    (rest : List Char) :
    ∃ span stop, styleRule lines start
      (printSelectors ss ++ ' ' :: '\x7b' :: ' ' :: (ds.flatMap printDeclaration ++ '\x7d' :: rest)) =
        ⟨.rule (.style ss ds span), [], stop, rest⟩ := by
  have htext : printSelectors ss ++ ' ' :: '\x7b' :: ' ' :: (ds.flatMap printDeclaration ++ '\x7d' :: rest) =
      printSelectors ss ++ [' '] ++ '\x7b' :: (' ' :: ds.flatMap printDeclaration ++ '\x7d' :: rest) := by
    simp
  have hclear : Clear titleEnds (printSelectors ss ++ [' ']) := clear_selectors (by decide) hss
  obtain ⟨span, stop, hrule⟩ := styleRule_of_closed (hclear.splitTop_append (by decide) _)
    ((balanced_declarations hds).openBlock_append rest) (declarations_print hds lines)
  rw [htext, hrule, selectors_print hss]
  exact ⟨span, stop, rfl⟩

/-- The name of a printed at-rule ends at the blank behind it. -/
theorem PlainAtName.scan (h : PlainAtName name) (rest : List Char) :
    (name.toList ++ ' ' :: rest).takeWhile isAtNameChar = name.toList ∧
      (name.toList ++ ' ' :: rest).dropWhile isAtNameChar = ' ' :: rest := by
  rw [List.takeWhile_append_of_pos h.chars, List.dropWhile_append_of_pos h.chars,
    List.takeWhile_cons_of_neg (by decide), List.dropWhile_cons_of_neg (by decide), List.append_nil]
  exact ⟨rfl, rfl⟩

theorem atRule_print_bare {prelude : String} (hname : PlainAtName name) (hprelude : PlainText marks prelude)
    (lines : Lines) (start : ℕ) (rest : List Char) :
    ∃ span stop, atRule lines start (name.toList ++ ' ' :: (prelude.toList ++ ';' :: rest)) =
      ⟨.rule (.at name prelude none span), [], stop, rest⟩ := by
  have hclear : Clear titleEnds (' ' :: prelude.toList) := clear_prelude (by decide) hprelude
  have hsplit := hclear.splitTop_append (s := ';') (by decide) rest
  have htrim : trim (' ' :: prelude.toList) = prelude.toList := (trim_blank rfl _).trans hprelude.trim_eq
  rw [atRule, (hname.scan _).1, (hname.scan _).2, ← List.cons_append, hsplit]
  simp only [htrim, String.ofList_toList]
  exact ⟨_, _, rfl⟩

/-- A printed at-rule with a block, whose name decides what the block holds. -/
theorem atRule_print_block {prelude : String} {body : List Char} (hname : PlainAtName name)
    (hprelude : PlainText marks prelude) (hbody : Balanced body) (lines : Lines) (start : ℕ) (rest : List Char) :
    ∃ offset span stop,
      atRule lines start (name.toList ++ ' ' :: (prelude.toList ++ ' ' :: '\x7b' :: (body ++ '\x7d' :: rest))) =
        if nestingNames.contains (asciiLower name) then ⟨.nesting name prelude offset body span, [], stop, rest⟩
        else ⟨.rule (.at name prelude (some (.declarations (declarations lines offset body).1)) span),
          (declarations lines offset body).2, stop, rest⟩ := by
  have hclear : Clear titleEnds (' ' :: prelude.toList ++ [' ']) :=
    (clear_prelude (by decide) hprelude).append (clear_space (by decide))
  have hsplit := hclear.splitTop_append (s := '\x7b') (by decide) (body ++ '\x7d' :: rest)
  have htext : ' ' :: (prelude.toList ++ ' ' :: '\x7b' :: (body ++ '\x7d' :: rest)) =
      ' ' :: prelude.toList ++ [' '] ++ '\x7b' :: (body ++ '\x7d' :: rest) := by
    simp
  have htrim : trim (' ' :: prelude.toList ++ [' ']) = prelude.toList :=
    trim_padded [' '] (by simp) hprelude.trim_eq true
  rw [atRule, (hname.scan _).1, (hname.scan _).2, htext, hsplit]
  simp only [htrim, String.ofList_toList, hbody.openBlock_append]
  exact ⟨_, _, _, rfl⟩

/-! ### Rules -/

theorem readRules_gap (hgap : ∀ c ∈ gap, isAsciiBlank c) (nested : Bool) (offset : ℕ) (cs : List Char) :
    ∃ offset', readRules lines nested offset (gap ++ cs) = readRules lines nested offset' cs := by
  induction gap generalizing offset with
  | nil => exact ⟨offset, rfl⟩
  | cons c gap ih =>
    obtain ⟨hc, hgap⟩ := List.forall_mem_cons.1 hgap
    obtain ⟨offset', hread⟩ := ih hgap (offset + c.utf8Size)
    exact ⟨offset', by rw [List.cons_append, readRules_blank hc, hread]⟩

/-- An at-rule in front of other rules. -/
theorem readRules_at (nested : Bool) (start : ℕ) (cs : List Char) :
    readRules lines nested start ('@' :: cs) = (atRule lines start cs).rules lines nested := by
  rw [readRules_cons rfl (by simp)]
  rfl

mutual

/-- A printed rule is read in front of the others. -/
theorem Rule.reads_print (hgap : ∀ c ∈ gap, isAsciiBlank c) :
    (r : Rule) → r.Plain → ∀ (lines : Lines) (nested : Bool) (start : ℕ) (rest : List Char),
      ∃ r' stop, r'.unplaced = r.unplaced ∧ readRules lines nested start (r.print gap ++ rest) =
        (r' :: (readRules lines nested stop rest).1, (readRules lines nested stop rest).2)
  | .style ss ds _, h, lines, nested, start, rest => by
    obtain ⟨c, cs, hcons, hblank, hclose, hsemicolon, hat⟩ := h.1.exists_cons
    obtain ⟨span, stop, hrule⟩ := styleRule_print h.1 h.2 lines start rest
    refine ⟨.style ss ds span, stop, rfl, ?_⟩
    simp only [Rule.print, hcons, List.cons_append, List.append_assoc, List.nil_append] at hrule ⊢
    rw [readRules_cons hblank fun _ => hclose, item, if_neg (by simpa using hclose),
      if_neg (by simpa using hsemicolon), if_neg (by simpa using hat), hrule]
    rfl
  | .at name prelude none _, h, lines, nested, start, rest => by
    obtain ⟨span, stop, hrule⟩ := atRule_print_bare h.1 h.2 lines start rest
    refine ⟨.at name prelude none span, stop, rfl, ?_⟩
    simp only [Rule.print, List.cons_append, List.append_assoc, List.nil_append]
    rw [readRules_at, hrule]
    rfl
  | .at name prelude (some (.declarations ds)) _, ⟨hname, hprelude, hnesting, hds⟩, lines, nested, start, rest => by
    obtain ⟨offset, span, stop, hrule⟩ :=
      atRule_print_block hname hprelude (balanced_declarations hds) lines start rest
    refine ⟨.at name prelude (some (.declarations ds)) span, stop, rfl, ?_⟩
    rw [hnesting, if_neg Bool.false_ne_true, declarations_print hds] at hrule
    simp only [Rule.print, Block.print, List.cons_append, List.append_assoc, List.nil_append] at hrule ⊢
    rw [readRules_at, hrule]
    rfl
  | .at name prelude (some (.rules inner)) _, ⟨hname, hprelude, hnesting, hinner⟩, lines, nested, start, rest => by
    have hbody : Balanced (' ' :: printRules gap inner) :=
      (clear_space (by decide)).balanced.append (balanced_printRules hgap inner hinner)
    obtain ⟨offset, span, stop, hrule⟩ := atRule_print_block hname hprelude hbody lines start rest
    -- The rules of the block are read behind the blank in front of them.
    obtain ⟨inner', hunplaced, hread⟩ := readRules_print hgap inner hinner lines true (offset + ' '.utf8Size)
    refine ⟨.at name prelude (some (.rules inner')) span, stop, ?_, ?_⟩
    · simp only [Rule.unplaced, Block.unplaced, hunplaced]
    · rw [hnesting, if_pos rfl] at hrule
      simp only [Rule.print, Block.print, List.cons_append, List.append_assoc, List.nil_append] at hrule ⊢
      rw [readRules_at, hrule]
      simp only [Scan.rules, readRules_blank (c := ' ') rfl, hread, List.append_nil, List.nil_append]

/-- Printed rules are read as themselves. -/
theorem readRules_print (hgap : ∀ c ∈ gap, isAsciiBlank c) :
    (rules : List Rule) → PlainRules rules → ∀ (lines : Lines) (nested : Bool) (offset : ℕ),
      ∃ rules', unplacedAll rules' = unplacedAll rules ∧
        readRules lines nested offset (printRules gap rules) = (rules', [])
  | [], _, lines, nested, offset => ⟨[], rfl, readRules_nil lines nested offset⟩
  | r :: rules, h, lines, nested, offset => by
    obtain ⟨r', stop, hr, hread⟩ := Rule.reads_print hgap r h.1 lines nested offset (gap ++ printRules gap rules)
    obtain ⟨offset', hskip⟩ := readRules_gap hgap nested stop (printRules gap rules)
    obtain ⟨rules', hrules, hmore⟩ := readRules_print hgap rules h.2 lines nested offset'
    refine ⟨r' :: rules', ?_, ?_⟩
    · rw [unplacedAll, unplacedAll, hr, hrules]
    · rw [printRules, hread, hskip, hmore]

end

/-- A printed style sheet is read without problems and has the same rules again, spans aside. -/
theorem read_printRules {rules : List Rule} (hgap : ∀ c ∈ gap, isAsciiBlank c) (h : PlainRules rules) :
    (Sheet.read (String.ofList (printRules gap rules))).problems = [] ∧
      unplacedAll (Sheet.read (String.ofList (printRules gap rules))).rules = unplacedAll rules := by
  have hblank := blankComments_printRules hgap h
  obtain ⟨rules', hunplaced, hread⟩ :=
    readRules_print hgap rules h (Lines.ofText (printRules gap rules)) false 0
  rw [Sheet.read, String.toList_ofList, hblank, hread]
  exact ⟨rfl, hunplaced⟩

/-- Rules inside rules inside a rule. -/
def layers : List Rule :=
  [.at "import" "base.css" none {},
   .at "supports" "display: grid" (some (.rules
     [.at "Media" "print" (some (.rules
       [.style ["a", "ul > *"] [⟨"color", "red", false⟩, ⟨"margin", "0", true⟩] {}])) {},
      .style ["b"] [] {}])) {},
   .at "font-face" "" (some (.declarations [⟨"src", "", true⟩])) {}]

theorem read_printRules_layers :
    String.ofList (printRules [' '] layers) =
        "@import base.css; @supports display: grid \x7b @Media print \x7b a, ul > * \x7b color: red; " ++
          "margin: 0 !important; \x7d \x7d b \x7b \x7d \x7d @font-face  \x7b src:  !important; \x7d " ∧
      PlainRules layers ∧
      (Sheet.read (String.ofList (printRules [' '] layers))).problems = [] ∧
      unplacedAll (Sheet.read (String.ofList (printRules [' '] layers))).rules = unplacedAll layers :=
  ⟨by decide +kernel, by decide +kernel, read_printRules (List.forall_mem_singleton.2 rfl) (by decide +kernel)⟩

end ComponentAtlas.Style

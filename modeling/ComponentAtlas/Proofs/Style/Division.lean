import ComponentAtlas.Proofs.Style.Balance
import ComponentAtlas.Proofs.Text.Cutting
import Mathlib.Data.List.TakeWhile

/-!
# How a style sheet is divided

Reading a style sheet divides its text into white space, semicolons, malformed parts and rules, and
the block of a nesting rule in the same way. Nothing is left over: a list of rules inside a block never
ends before the block does.

* `Title`: what stands in front of a block; `Title.Heads`: the title of a block;
* `Part`: a part of a text that holds no rules, with the rules and problems that it makes up;
* `Divided`: a text that is divided into parts and nesting rules;
* `item_takes`: what is read at the start of a text; `readRules_divided`, `read_divided`: the whole text
  is divided;
* `head?_selectors`: where the first selector begins.
-/

namespace ComponentAtlas.Style

open ComponentAtlas.Text ComponentAtlas.Source

/-- The characters that end the title of a rule. -/
abbrev titleEnds : List Char := ['\x7b', ';', '\x7d']

/-- What stands in front of a block. -/
inductive Title
  | selectors (text : List Char)
  | named (name prelude : List Char)

/-- The text of a title. -/
def Title.text : Title → List Char
  | .selectors text => text
  | .named name prelude => '@' :: (name ++ prelude)

/-- The rule of a title whose block holds declarations. -/
def Title.declaring (t : Title) (ds : List Declaration) (span : Span) : Rule :=
  match t with
  | .selectors text => .style (Style.selectors text) ds span
  | .named name prelude =>
    .at (String.ofList name) (String.ofList (trim prelude)) (some (.declarations ds)) span

/-- A title begins with no white space, and a name has characters of names only. -/
def Title.Proper : Title → Prop
  | .selectors text => ∀ c ∈ text.head?, isAsciiBlank c = false
  | .named name _ => ∀ c ∈ name, isAtNameChar c

/-- A title in front of a brace, with the text from there to the end of the block, the content of the
block, and whether it is closed. -/
structure Title.Heads (t : Title) (text body : List Char) (closed : Bool) : Prop where
  proper : t.Proper
  split : splitTop titleEnds (t.text ++ '\x7b' :: text) = some (t.text, '\x7b', text)
  block : openBlock text = ⟨body, closed, []⟩

/-- A part of a text that begins at an offset, with the rules and the problems that it makes up. -/
inductive Part (lines : Lines) (start : ℕ) : List Char → List Rule → List Problem → Prop
  | semicolon : Part lines start [';'] [] []
  | malformed (bad mark : List Char) {message : String} (nonempty : bad ≠ []) (hmark : mark = [] ∨ mark = [';']) :
      Part lines start (bad ++ mark) [] [problem lines start (start + byteLength bad) message]
  | bare (mark : List Char) {name prelude text : List Char} {own : List Problem} (proper : ∀ c ∈ name, isAtNameChar c)
      (text_eq : text = '@' :: (name ++ prelude ++ mark)) (split : splitTop braces text = none)
      (problems : ∀ p ∈ own, p.span = lines.span start (start + byteLength text)) :
      Part lines start text
        [.at (String.ofList name) (String.ofList (trim prelude)) none
          (lines.span start (start + byteLength text))] own
  | declaring {t : Title} {text body whole : List Char} {closed : Bool} {own : List Problem}
      (heads : t.Heads text body closed) (whole_eq : whole = t.text ++ '\x7b' :: text)
      (problems : ∀ p ∈ own, p.span = lines.span start (start + byteLength whole)) :
      Part lines start whole
        [t.declaring (declarations lines (start + byteLength t.text + 1) body).1
          (lines.span start (start + byteLength whole))]
        (own ++ (declarations lines (start + byteLength t.text + 1) body).2)

/-- A text that begins at an offset and is divided into parts and nesting rules, with all rules and
problems. -/
inductive Divided (lines : Lines) : ℕ → List Char → List Rule → List Problem → Prop
  | nil {start : ℕ} : Divided lines start [] [] []
  | blank {start : ℕ} {c : Char} {cs : List Char} {rules : List Rule} {ps : List Problem} (hc : isAsciiBlank c)
      (more : Divided lines (start + c.utf8Size) cs rules ps) : Divided lines start (c :: cs) rules ps
  | part {start : ℕ} {text cs : List Char} {own rules : List Rule} {own' ps : List Problem}
      (here : Part lines start text own own') (more : Divided lines (start + byteLength text) cs rules ps) :
      Divided lines start (text ++ cs) (own ++ rules) (own' ++ ps)
  | nesting {start : ℕ} {name prelude text body whole cs : List Char} {closed : Bool} {inner rules : List Rule}
      {own ps' ps : List Problem} (heads : (Title.named name prelude).Heads text body closed)
      (whole_eq : whole = (Title.named name prelude).text ++ '\x7b' :: text)
      (problems : ∀ p ∈ own, p.span = lines.span start (start + byteLength whole))
      (inside : Divided lines (start + byteLength (Title.named name prelude).text + 1) body inner ps')
      (more : Divided lines (start + byteLength whole) cs rules ps) :
      Divided lines start (whole ++ cs)
        (.at (String.ofList name) (String.ofList (trim prelude)) (some (.rules inner))
          (lines.span start (start + byteLength whole)) :: rules)
        (own ++ ps' ++ ps)

/-- What is read at an offset: a part of the text, or a nesting rule whose block is still to be read. -/
inductive Taken (lines : Lines) (start : ℕ) : List Char → Item → List Problem → Prop
  | nothing {text : List Char} {own : List Problem} (here : Part lines start text [] own) :
      Taken lines start text .none own
  | rule {text : List Char} {r : Rule} {own : List Problem} (here : Part lines start text [r] own) :
      Taken lines start text (.rule r) own
  | nesting {name prelude text body whole : List Char} {closed : Bool} {own : List Problem}
      (heads : (Title.named name prelude).Heads text body closed)
      (whole_eq : whole = (Title.named name prelude).text ++ '\x7b' :: text)
      (problems : ∀ p ∈ own, p.span = lines.span start (start + byteLength whole)) :
      Taken lines start whole
        (.nesting (String.ofList name) (String.ofList (trim prelude))
          (start + byteLength (Title.named name prelude).text + 1) body
          (lines.span start (start + byteLength whole))) own

variable {lines : Lines} {start : ℕ} {c : Char} {as cs rest text body name : List Char} {closed : Bool}

/-! ### Blocks -/

theorem sealed_of_openBlock (h : openBlock text = ⟨body, closed, []⟩) : Sealed body := by
  rcases openBlock_cases text with ⟨b, r, rfl, hb⟩ | hsealed
  · rw [hb.openBlock_append] at h
    cases h
    exact hb.sealed
  · rw [hsealed.openBlock_eq] at h
    cases h
    exact hsealed

/-- The text of a block behind its opening brace. -/
theorem exists_block (cs : List Char) :
    ∃ text, cs = text ++ (openBlock cs).rest ∧
      openBlock text = ⟨(openBlock cs).body, (openBlock cs).closed, []⟩ ∧
      (Balanced ('\x7b' :: text) ∨ (openBlock cs).rest = []) ∧
      byteLength text = byteLength (openBlock cs).body + (if (openBlock cs).closed then 1 else 0) := by
  rcases openBlock_cases cs with ⟨body, rest, rfl, hbody⟩ | hsealed
  · refine ⟨body ++ ['\x7d'], ?_, ?_, ?_, ?_⟩
    · rw [hbody.openBlock_append]
      simp
    · rw [hbody.openBlock_append, hbody.openBlock_append]
    · exact .inl hbody.block
    · rw [hbody.openBlock_append]
      simp
      rfl
  · rw [hsealed.openBlock_eq]
    exact ⟨cs, by simp, hsealed.openBlock_eq, .inr rfl, by simp⟩

theorem Clear.of_titleEnds (h : Clear titleEnds as) : Clear braces as :=
  clear_of_splitTop (by decide) (h.splitTop_append (s := ';') (by decide) [])

/-- A title that stands at an offset before a block, and the text of the block behind its brace. -/
structure Title.Opens (t : Title) (start : ℕ) (rest text : List Char) : Prop where
  append : rest = text ++ (openBlock rest).rest
  heads : t.Heads text (openBlock rest).body (openBlock rest).closed
  balanced : Balanced (t.text ++ '\x7b' :: text) ∨ (openBlock rest).rest = []
  stop : (if (openBlock rest).closed then start + byteLength t.text + 1 + byteLength (openBlock rest).body + 1
      else start + byteLength t.text + 1 + byteLength (openBlock rest).body) =
    start + byteLength (t.text ++ '\x7b' :: text)

theorem Title.exists_opens {t : Title} (proper : t.Proper) (hclear : Clear titleEnds t.text) (start : ℕ)
    (rest : List Char) : ∃ text, t.Opens start rest text := by
  obtain ⟨text, happend, hblock, hbalanced, hlength⟩ := exists_block rest
  refine ⟨text, happend, ⟨proper, hclear.splitTop_append (by decide) text, hblock⟩,
    hbalanced.imp_left hclear.of_titleEnds.balanced.append, ?_⟩
  have hbrace : byteLength (t.text ++ '\x7b' :: text) = byteLength t.text + (1 + byteLength text) :=
    byteLength_append _ _
  rw [hbrace, hlength]
  split <;> omega

/-- A block that is not closed is reported where the whole rule stands. -/
theorem Title.Opens.problems {t : Title} {message : String} (h : t.Opens start rest text) :
    ∀ p ∈ (if (openBlock rest).closed then [] else
        [problem lines start (start + byteLength t.text + 1 + byteLength (openBlock rest).body) message]),
      p.span = lines.span start (start + byteLength (t.text ++ '\x7b' :: text)) := by
  have hstop := h.stop
  intro p hp
  split at hp
  · cases hp
  · rename_i hclosed
    rw [if_neg hclosed] at hstop
    rw [List.mem_singleton.1 hp, problem, hstop]

/-! ### Items -/

/-- An item takes a text up to what is left behind it. -/
structure Takes (lines : Lines) (start : ℕ) (cs : List Char) (scan : Scan) (used : List Char) : Prop where
  append : cs = used ++ scan.rest
  offset : scan.offset = start + byteLength used
  taken : Taken lines start used scan.item scan.problems
  balanced : Balanced used ∨ scan.rest = []

theorem clear_at_name (h : ∀ c ∈ name, isAtNameChar c) : Clear titleEnds ('@' :: name) :=
  clear_of_marks (by decide)
    (List.forall_mem_cons.2 ⟨by decide, fun c hc => notMem_marks (by decide) (h c hc)⟩)

theorem clear_semicolon : Clear braces [';'] := clear_singleton (by decide) (by decide) (by decide)

theorem byteLength_semicolon (as : List Char) : byteLength (as ++ [';']) = byteLength as + 1 := byteLength_append as [';']

/-- The third of the characters that end a title. -/
theorem eq_brace_of_splitTop {before : List Char} {mark : Char}
    (h : splitTop titleEnds cs = some (before, mark, rest)) (hsemicolon : ¬ (mark == ';') = true)
    (hclose : ¬ (mark == '\x7d') = true) : mark = '\x7b' := by
  have hmark := (isMark_of_splitTop h).1
  simp_all

/-- An at-rule ends behind its semicolon, before the end of a block around it, or behind its block. -/
theorem atRule_takes (lines : Lines) (start : ℕ) (cs : List Char) :
    ∃ used, Takes lines start ('@' :: cs) (atRule lines start cs) used := by
  have hname : ∀ c ∈ cs.takeWhile isAtNameChar, isAtNameChar c := fun c hc => List.mem_takeWhile_imp hc
  have hcs : cs = cs.takeWhile isAtNameChar ++ cs.dropWhile isAtNameChar := List.takeWhile_append_dropWhile.symm
  rw [atRule]
  generalize cs.takeWhile isAtNameChar = name at *
  generalize cs.dropWhile isAtNameChar = afterName at *
  subst hcs
  have hlength : ∀ as, start + 1 + byteLength name + byteLength as =
      start + byteLength (Title.named name as).text := by
    intro as
    rw [Title.text, byteLength_cons, byteLength_append, Nat.add_assoc, Nat.add_assoc]
    rfl
  have hclear := clear_at_name hname
  simp only [hlength]
  split
  · rename_i hsplit
    have hnone : splitTop braces ('@' :: (name ++ afterName)) = none := by
      rw [← List.cons_append, hclear.of_titleEnds, splitTop_none_of_subset (by decide) hsplit, Option.map_none]
    exact ⟨_, by simp [Title.text], rfl,
      .rule (.bare [] hname (by simp [Title.text]) hnone (by simp [problem])), .inr rfl⟩
  · rename_i before mark rest hsplit
    obtain rfl : afterName = before ++ mark :: rest := splitTopFrom_append hsplit
    have htitle : Clear titleEnds (Title.named name before).text :=
      hclear.append (clear_of_splitTop (List.Subset.refl _) hsplit)
    split
    · rename_i hmark
      obtain rfl := eq_of_beq hmark
      have hend : Clear braces ((Title.named name before).text ++ [';']) := htitle.of_titleEnds.append clear_semicolon
      rw [Nat.add_assoc, ← byteLength_semicolon]
      exact ⟨_, by simp [Title.text], rfl,
        .rule (.bare [';'] hname (by simp [Title.text]) hend.splitTop_eq_none (by simp)), .inl hend.balanced⟩
    · rename_i hsemicolon
      split
      · rename_i hmark
        obtain rfl := eq_of_beq hmark
        have hend : Clear braces (Title.named name before).text := htitle.of_titleEnds
        exact ⟨_, by simp [Title.text], rfl,
          .rule (.bare [] hname (by simp [Title.text]) hend.splitTop_eq_none (by simp [problem])), .inl hend.balanced⟩
      · rename_i hclose
        obtain rfl := eq_brace_of_splitTop hsplit hsemicolon hclose
        obtain ⟨text, hopens⟩ := Title.exists_opens (t := .named name before) hname htitle start rest
        have happend : '@' :: (name ++ (before ++ '\x7b' :: rest)) =
            (Title.named name before).text ++ '\x7b' :: text ++ (openBlock rest).rest := by
          simp [Title.text, ← hopens.append]
        rw [hopens.stop]
        split
        · exact ⟨_, happend, rfl, .nesting hopens.heads rfl hopens.problems, hopens.balanced⟩
        · exact ⟨_, happend, rfl, .rule (.declaring hopens.heads rfl hopens.problems), hopens.balanced⟩

/-- A style rule ends behind its block, or where its selectors end without one. -/
theorem styleRule_takes (lines : Lines) (start : ℕ) (hc : isAsciiBlank c = false) (hclose : c ≠ '\x7d')
    (hsemicolon : c ≠ ';') : ∃ used, Takes lines start (c :: cs) (styleRule lines start (c :: cs)) used := by
  rw [styleRule]
  dsimp only
  split
  · exact ⟨c :: cs, by simp, rfl, .nothing (by simpa using Part.malformed (c :: cs) [] (List.cons_ne_nil c cs) (.inl rfl)),
      .inr rfl⟩
  · rename_i before mark rest hsplit
    have happend : c :: cs = before ++ mark :: rest := splitTopFrom_append hsplit
    have hclear : Clear titleEnds before := clear_of_splitTop (List.Subset.refl _) hsplit
    have hhead : mark ≠ '\x7b' → before ≠ [] := by
      rintro hmark rfl
      cases happend
      have := (isMark_of_splitTop hsplit).1
      simp_all
    split
    · rename_i hmark
      obtain rfl := eq_of_beq hmark
      refine ⟨before ++ [';'], by simp [happend], by rw [byteLength_semicolon]; rfl,
        .nothing (.malformed before [';'] (hhead (by decide)) (.inr rfl)),
        .inl (hclear.of_titleEnds.append clear_semicolon).balanced⟩
    · rename_i hne
      split
      · rename_i hmark
        obtain rfl := eq_of_beq hmark
        exact ⟨before, happend, rfl, .nothing (by simpa using Part.malformed before [] (hhead (by decide)) (.inl rfl)),
          .inl hclear.of_titleEnds.balanced⟩
      · rename_i hne'
        obtain rfl := eq_brace_of_splitTop hsplit hne hne'
        have hproper : (Title.selectors before).Proper := by
          intro d hd
          cases before with
          | nil => cases hd
          | cons b bs =>
            cases happend
            cases hd
            exact hc
        obtain ⟨text, hopens⟩ := Title.exists_opens (t := .selectors before) hproper hclear start rest
        have hwhole : c :: cs = (Title.selectors before).text ++ '\x7b' :: text ++ (openBlock rest).rest := by
          rw [happend, List.append_assoc, List.cons_append, ← hopens.append]
          rfl
        have hstop : start + byteLength before = start + byteLength (Title.selectors before).text := rfl
        rw [hstop, hopens.stop]
        exact ⟨_, hwhole, rfl, .rule (.declaring hopens.heads rfl hopens.problems), hopens.balanced⟩

theorem item_takes (lines : Lines) (start : ℕ) (cs : List Char) (hc : isAsciiBlank c = false) (hclose : c ≠ '\x7d') :
    ∃ used, Takes lines start (c :: cs) (item lines start c cs) used := by
  rw [item, if_neg (by simpa using hclose)]
  split
  · rename_i hsemicolon
    obtain rfl := eq_of_beq hsemicolon
    exact ⟨[';'], rfl, rfl, .nothing .semicolon, .inl clear_semicolon.balanced⟩
  · rename_i hsemicolon
    split
    · rename_i hat
      obtain rfl := eq_of_beq hat
      exact atRule_takes lines start cs
    · exact styleRule_takes lines start hc hclose (by simpa using hsemicolon)

/-! ### Lists of rules -/

variable {nested : Bool} {offset : ℕ}

/-- The rules from an item on, with the problems. -/
def Scan.rules (lines : Lines) (nested : Bool) (scan : Scan) : List Rule × List Problem :=
  let more := readRules lines nested scan.offset scan.rest
  match scan.item with
  | .none => (more.1, scan.problems ++ more.2)
  | .rule r => (r :: more.1, scan.problems ++ more.2)
  | .nesting name prelude offset body span =>
    let inner := readRules lines true offset body
    (.at name prelude (some (.rules inner.1)) span :: more.1, scan.problems ++ inner.2 ++ more.2)

theorem readRules_eq (lines : Lines) (nested : Bool) (offset : ℕ) (cs : List Char) :
    readRules lines nested offset cs =
      match cs.dropWhile isAsciiBlank with
      | [] => ([], [])
      | c :: rest =>
        if nested && c == '\x7d' then ([], [])
        else (item lines (offset + byteLength (cs.takeWhile isAsciiBlank)) c rest).rules lines nested := by
  rw [readRules]
  split
  · rename_i hdrop
    rw [hdrop]
  · rename_i c rest hdrop
    simp only [hdrop, Scan.rules]
    split
    · rfl
    · split <;> simp_all

theorem readRules_nil (lines : Lines) (nested : Bool) (offset : ℕ) : readRules lines nested offset [] = ([], []) := by
  rw [readRules_eq]
  rfl

theorem readRules_blank (hc : isAsciiBlank c) :
    readRules lines nested offset (c :: cs) = readRules lines nested (offset + c.utf8Size) cs := by
  rw [readRules_eq, readRules_eq, List.dropWhile_cons_of_pos hc, List.takeWhile_cons_of_pos hc, byteLength_cons,
    Nat.add_assoc]

theorem readRules_cons (hc : isAsciiBlank c = false) (hexit : nested = true → c ≠ '\x7d') :
    readRules lines nested start (c :: cs) = (item lines start c cs).rules lines nested := by
  rw [readRules_eq, List.dropWhile_cons_of_neg (by simp [hc]), List.takeWhile_cons_of_neg (by simp [hc])]
  exact if_neg (by simpa using hexit)

theorem clear_blank (hc : isAsciiBlank c) : Clear titleEnds [c] :=
  clear_of_marks (by decide) (List.forall_mem_singleton.2 (notMem_marks (by decide) hc))

/-- The part that an item takes is followed by the other parts. -/
theorem Takes.divided {scan : Scan} {used : List Char} (h : Takes lines start cs scan used)
    (inside : ∀ name prelude at_ body span, scan.item = .nesting name prelude at_ body span → Sealed body →
      Divided lines at_ body (readRules lines true at_ body).1 (readRules lines true at_ body).2)
    (more : Divided lines scan.offset scan.rest (readRules lines nested scan.offset scan.rest).1
      (readRules lines nested scan.offset scan.rest).2) :
    Divided lines start cs (scan.rules lines nested).1 (scan.rules lines nested).2 := by
  obtain ⟨happend, hoffset, htaken, -⟩ := h
  rw [happend, Scan.rules]
  generalize readRules lines nested scan.offset scan.rest = later at more ⊢
  rw [hoffset] at more
  generalize scan.rest = rest at more ⊢
  generalize scan.item = it at inside htaken ⊢
  generalize scan.problems = own at htaken ⊢
  cases htaken with
  | nothing here => exact .part here more
  | rule here => exact .part here more
  | nesting heads whole_eq problems =>
    exact .nesting heads whole_eq problems (inside _ _ _ _ _ rfl (sealed_of_openBlock heads.block)) more

/-- All of a text is divided. The content of a block is sealed, so that no brace ends the list of its
rules early. -/
theorem readRules_divided (lines : Lines) (nested : Bool) (offset : ℕ) (hsealed : nested = true → Sealed cs) :
    Divided lines offset cs (readRules lines nested offset cs).1 (readRules lines nested offset cs).2 := by
  induction hn : cs.length using Nat.strongRecOn generalizing nested offset cs with
  | _ n ih =>
    subst hn
    cases cs with
    | nil =>
      rw [readRules_nil]
      exact .nil
    | cons c cs =>
      by_cases hc : isAsciiBlank c = true
      · rw [readRules_blank hc]
        refine .blank hc (ih cs.length (by simp) nested (offset + c.utf8Size) (fun hnested => ?_) rfl)
        exact (clear_blank hc).of_titleEnds.balanced.sealed_append.1 (hsealed hnested)
      · have hc : isAsciiBlank c = false := by simpa using hc
        have hexit : nested = true → c ≠ '\x7d' := by
          rintro hnested rfl
          exact balanced_nil.not_sealed cs (hsealed hnested)
        obtain ⟨hrest, hbody⟩ := item_length lines offset c cs
        rw [readRules_cons hc hexit]
        by_cases hclose : c = '\x7d'
        · subst hclose
          have htop : nested = false := by simpa using hexit
          subst htop
          exact .part (.malformed ['\x7d'] [] (by simp) (.inl rfl))
            (ih cs.length (by simp) false (offset + 1) (by simp) rfl)
        · obtain ⟨used, htakes⟩ := item_takes lines offset cs hc hclose
          refine htakes.divided (fun name prelude at_ body span hitem hbodySealed => ?_) ?_
          · exact ih body.length (hbody _ _ _ _ _ hitem) true at_ (fun _ => hbodySealed) rfl
          · refine ih _ hrest nested _ (fun hnested => ?_) rfl
            rcases htakes.balanced with hbalanced | hnil
            · have := hsealed hnested
              rw [htakes.append] at this
              exact hbalanced.sealed_append.1 this
            · rw [hnil]
              exact sealed_nil

theorem read_divided (text : String) :
    Divided (Lines.ofText (blankComments text.toList)) 0 (blankComments text.toList) (Sheet.read text).rules
      (Sheet.read text).problems :=
  readRules_divided _ false 0 fun hnested => by cases hnested

/-! ### Selector lists -/

/-- The pieces of a selector list behind a text that belongs to the first of them. -/
def prepend (as : List Char) : List (List Char) → List (List Char)
  | [] => [as]
  | p :: ps => (as ++ p) :: ps

theorem prepend_prepend (as : List Char) (c : Char) (ps : List (List Char)) :
    prepend as (prepend [c] ps) = prepend (as ++ [c]) ps := by
  cases ps <;> simp [prepend]

theorem selectorPieces_cons (depth : Int) (c : Char) (cs : List Char) :
    selectorPieces depth (c :: cs) =
      if c == '(' || c == '[' then prepend [c] (selectorPieces (depth + 1) cs)
      else if c == ')' || c == ']' then prepend [c] (selectorPieces (depth - 1) cs)
      else if c == ',' && depth == 0 then [] :: selectorPieces depth cs
      else prepend [c] (selectorPieces depth cs) := by
  rw [selectorPieces]
  dsimp only
  cases selectorPieces (depth + 1) cs <;> cases selectorPieces (depth - 1) cs <;> cases selectorPieces depth cs <;> rfl

theorem prepend_nil (depth : Int) (cs : List Char) : prepend [] (selectorPieces depth cs) = selectorPieces depth cs := by
  cases cs with
  | nil => rfl
  | cons c cs =>
    rw [selectorPieces_cons]
    split
    · rw [prepend_prepend, List.nil_append]
    · split
      · rw [prepend_prepend, List.nil_append]
      · split
        · rfl
        · rw [prepend_prepend, List.nil_append]

/-- The first selector begins where the list begins, if no comma and no white space stands there. -/
theorem head?_selectors (cs : List Char) (hcomma : c ≠ ',') (hc : isBlank c = false) :
    ∃ s ss, selectors (c :: cs) = String.ofList (c :: s) :: ss := by
  obtain ⟨ps, hps⟩ : ∃ ps, selectorPieces 0 (c :: cs) = prepend [c] ps := by
    rw [selectorPieces_cons]
    split
    · exact ⟨_, rfl⟩
    · split
      · exact ⟨_, rfl⟩
      · rw [if_neg (by simp [hcomma])]
        exact ⟨_, rfl⟩
  cases ps with
  | nil => exact ⟨trimEnd [], [], by simp [selectors, hps, prepend, trim_cons hc]⟩
  | cons p ps => exact ⟨trimEnd p, _, by simp [selectors, hps, prepend, trim_cons hc]; rfl⟩

end ComponentAtlas.Style

import ComponentAtlas.Proofs.Markup.Bytewise.Tags
import ComponentAtlas.Proofs.Style.Coverage

/-!
# A reader of style sheets over bytes

This reader looks at the bytes of a source one by one and cuts texts out of it at byte offsets. It has
no result where it looks beyond the source, where a cut is out of order, outside the source or inside a
character, and where the steps that it is given do not suffice. It finds what the reader over
characters finds, so none of this ever happens.

* `findTop`: a search outside quotes and parentheses; `closingFrom`: the end of a block;
* `declarationsFrom`, `piecesFrom`, `atRule?`, `styleRule?`, `rulesFrom`: the parts of a style sheet;
* `sheet?_eq`: every text is read to its end;
* `read_accounted`: nothing in it is passed over silently.
-/

namespace ComponentAtlas.Style.Bytewise

open ComponentAtlas.Text ComponentAtlas.Source
open ComponentAtlas.Markup.Bytewise (lines isAscii_of_isAlphanum skip_blanks)

/-! ### Searches -/

/-- The byte at an offset before the end of the window, as the character with its number. -/
def see? (w : Window) (at_ : ℕ) : Option Char := (w.byte? at_).map fun b => Char.ofNat b.toNat

/-- The offset of the first of some characters outside quotes and parentheses. Behind a backslash inside
quotes the search passes over one byte. -/
def findTop (w : Window) (stops : List Char) (depth : Int) (quote : Option Char) (at_ : ℕ) : Option (Option ℕ) :=
  if at_ < w.stop then do
    let c ← see? w at_
    match turn stops depth quote c with
    | .ends => return some at_
    | .passes depth quote => findTop w stops depth quote (at_ + 1)
    | .escapes => findTop w stops depth quote (at_ + 2)
  else return none
termination_by w.stop - at_

/-- The offset of the brace that closes a block, from inside a number of further blocks. -/
def closingFrom (w : Window) : ℕ → ℕ → ℕ → Option (Option ℕ)
  | 0, _, _ => none
  | fuel + 1, depth, at_ => do
    match ← findTop w braces 0 none at_ with
    | none => return none
    | some found =>
      let mark ← see? w found
      if mark == '\x7b' then closingFrom w fuel (depth + 1) (found + 1)
      else
        match depth with
        | 0 => return some found
        | depth + 1 => closingFrom w fuel depth (found + 1)

/-! ### Declarations and selectors -/

/-- The declarations from an offset to the end of the window, in a bounded number of steps. -/
def declarationsFrom (w : Window) : ℕ → ℕ → Option (List Declaration × List Problem)
  | 0, _ => none
  | fuel + 1, at_ =>
    if at_ < w.stop then do
      let found ← findTop w [';'] 0 none at_
      let stop := found.getD w.stop
      let piece ← w.slice? at_ stop
      let more ← declarationsFrom w fuel (stop + 1)
      let here := declarationPiece (lines w) at_ piece
      return (here.1 ++ more.1, here.2 ++ more.2)
    else return ([], [])

/-- The pieces of a selector list. The last one begins at `start`, and it is read up to `at_`. -/
def piecesFrom (w : Window) (depth : Int) (start at_ : ℕ) : Option (List (List Char)) :=
  if at_ < w.stop then do
    let c ← see? w at_
    if c == '(' || c == '[' then piecesFrom w (depth + 1) start (at_ + 1)
    else if c == ')' || c == ']' then piecesFrom w (depth - 1) start (at_ + 1)
    else if c == ',' && depth == 0 then
      let piece ← w.slice? start at_
      let more ← piecesFrom w depth (at_ + 1) (at_ + 1)
      return piece :: more
    else piecesFrom w depth start (at_ + 1)
  else do
    let piece ← w.slice? start w.stop
    return [piece]
termination_by w.stop - at_

/-! ### Rules -/

/-- What stands at an offset. The block of a nesting rule lies between two offsets. -/
inductive Item
  | none
  | rule (r : Rule)
  | nesting (name prelude : String) (bodyStart bodyEnd : ℕ) (span : Span)

/-- An item with the problems found while reading it and the offset behind it. -/
structure Found where
  item : Item
  problems : List Problem
  offset : ℕ

/-- The end of the content of a block that begins at an offset, and the offset behind the block. -/
def block? (w : Window) (start : ℕ) : Option (ℕ × ℕ × Bool) := do
  match ← closingFrom w (w.stop - start + 1) 0 start with
  | some close => return (close, close + 1, true)
  | none => return (w.stop, w.stop, false)

/-- The declarations of a block between two offsets. -/
def declarations? (w : Window) (start stop : ℕ) : Option (List Declaration × List Problem) :=
  declarationsFrom { w with stop } (stop - start + 1) start

/-- The at-rule whose `@` stands at an offset. -/
def atRule? (w : Window) (start : ℕ) : Option Found := do
  let nameEnd := w.skip isAtNameChar (start + 1)
  let name ← w.slice? (start + 1) nameEnd
  let label := String.ofList name
  let unterminated := fun stop => problem (lines w) start stop ("Unterminated at-rule \"@" ++ label ++ "\"")
  match ← findTop w titleEnds 0 none nameEnd with
  | none =>
    let prelude ← w.slice? nameEnd w.stop
    return ⟨.rule (.at label (String.ofList (trim prelude)) none ((lines w).span start w.stop)),
      [unterminated w.stop], w.stop⟩
  | some stop =>
    let prelude ← w.slice? nameEnd stop
    let prelude := String.ofList (trim prelude)
    let mark ← see? w stop
    if mark == ';' then
      return ⟨.rule (.at label prelude none ((lines w).span start (stop + 1))), [], stop + 1⟩
    else if mark == '\x7d' then
      return ⟨.rule (.at label prelude none ((lines w).span start stop)), [unterminated stop], stop⟩
    else
      let (bodyEnd, next, closed) ← block? w (stop + 1)
      let problems :=
        if closed then [] else [problem (lines w) start w.stop ("Unclosed block in \"@" ++ label ++ "\"")]
      let span := (lines w).span start next
      if nestingNames.contains (asciiLower label) then
        return ⟨.nesting label prelude (stop + 1) bodyEnd span, problems, next⟩
      else
        let (ds, ps) ← declarations? w (stop + 1) bodyEnd
        return ⟨.rule (.at label prelude (some (.declarations ds)) span), problems ++ ps, next⟩

/-- The style rule at an offset. -/
def styleRule? (w : Window) (start : ℕ) : Option Found := do
  let expected := fun stop => problem (lines w) start stop "Expected \"\x7b\" after selector"
  match ← findTop w titleEnds 0 none start with
  | none => return ⟨.none, [expected w.stop], w.stop⟩
  | some stop =>
    let mark ← see? w stop
    if mark == '\x7b' then
      let title ← w.slice? start stop
      let pieces ← piecesFrom ⟨title, byteLength title⟩ 0 0 0
      let selectors := ((pieces.map trim).filter fun s => !s.isEmpty).map String.ofList
      let (bodyEnd, next, closed) ← block? w (stop + 1)
      let problems := if closed then [] else [problem (lines w) start w.stop "Unclosed block"]
      let (ds, ps) ← declarations? w (stop + 1) bodyEnd
      return ⟨.rule (.style selectors ds ((lines w).span start next)), problems ++ ps, next⟩
    else return ⟨.none, [expected stop], if mark == ';' then stop + 1 else stop⟩

/-- The item at an offset where a character is seen. -/
def item? (w : Window) (c : Char) (start : ℕ) : Option Found :=
  if c == '\x7d' then
    some ⟨.none, [problem (lines w) start (start + 1) "Unexpected \"\x7d\""], start + 1⟩
  else if c == ';' then some ⟨.none, [], start + 1⟩
  else if c == '@' then atRule? w start
  else styleRule? w start

/-- The rules from an offset to the end of the window, in a bounded number of steps. A window that
extends beyond the source fails. -/
def rulesFrom (nested : Bool) : ℕ → Window → ℕ → Option (List Rule × List Problem)
  | 0, _, _ => none
  | fuel + 1, w, at_ =>
    let here := w.skip isAsciiBlank at_
    if (utf8 w.source).length < w.stop then none
    else if w.stop ≤ here then some ([], [])
    else do
      let c ← see? w here
      if nested && c == '\x7d' then return ([], [])
      else
        let found ← item? w c here
        match found.item with
        | .none =>
          let more ← rulesFrom nested fuel w found.offset
          return (more.1, found.problems ++ more.2)
        | .rule r =>
          let more ← rulesFrom nested fuel w found.offset
          return (r :: more.1, found.problems ++ more.2)
        | .nesting name prelude bodyStart bodyEnd span =>
          let inner ← rulesFrom true fuel { w with stop := bodyEnd } bodyStart
          let more ← rulesFrom nested fuel w found.offset
          return (.at name prelude (some (.rules inner.1)) span :: more.1, found.problems ++ inner.2 ++ more.2)

/-- The style sheet of a text. -/
def sheet? (text : String) : Option Sheet := do
  let source := blankComments text.toList
  let (rules, problems) ← rulesFrom false (byteLength source + 1) ⟨source, byteLength source⟩ 0
  return ⟨rules, problems⟩

variable {w : Window} {stops cs as bs : List Char} {depth : Int} {quote : Option Char} {at_ start : ℕ} {c a : Char}

/-! ### What is seen -/

theorem see?_of_isAscii (h : w.At at_ (c :: cs)) (hc : isAscii c) : see? w at_ = some c := by
  have hlt : c.toNat < 0x80 := by simpa [isAscii] using hc
  have hmod : c.toNat % 256 = c.toNat := Nat.mod_eq_of_lt (by omega)
  have hbyte := h.byte? 0
  rw [Nat.add_zero, utf8_cons, utf8EncodeChar_of_isAscii hc] at hbyte
  rw [see?, hbyte]
  simp [hmod, Char.ofNat_toNat]

/-- No byte of a longer character looks like a character of one byte. -/
theorem see?_of_not_isAscii (h : w.At at_ (c :: cs)) (hc : isAscii c = false) {i : ℕ} (hi : i < c.utf8Size) :
    ∃ d, see? w (at_ + i) = some d ∧ isAscii d = false := by
  have hi' : i < (String.utf8EncodeChar c).length := by simpa using hi
  have hbyte := h.byte? i
  rw [utf8_cons, List.getElem?_append_left hi', List.getElem?_eq_getElem hi'] at hbyte
  have hle := le_of_mem_utf8EncodeChar hc _ (List.getElem_mem hi')
  refine ⟨_, by rw [see?, hbyte]; rfl, ?_⟩
  generalize (String.utf8EncodeChar c)[i] = b at hle
  have hvalid : b.toNat.isValidChar := .inl (Nat.lt_trans b.toNat_lt (by decide))
  have hnat : (Char.ofNat b.toNat).toNat = b.toNat := by
    rw [Char.ofNat, dif_pos hvalid]
    rfl
  simpa [isAscii, hnat] using hle

theorem beq_eq_false_of_isAscii (hc : isAscii c = false) : ∀ a, isAscii a → (c == a) = false := by
  intro a ha
  refine beq_eq_false_iff_ne.2 ?_
  rintro rfl
  rw [ha] at hc
  cases hc

/-- What is seen at the start of a character is as good as the character itself. -/
theorem exists_see? (h : w.At at_ (c :: cs)) :
    ∃ d, see? w at_ = some d ∧ ∀ a, isAscii a → (d == a) = (c == a) := by
  cases hc : isAscii c with
  | true => exact ⟨c, see?_of_isAscii h hc, fun _ _ => rfl⟩
  | false =>
    obtain ⟨d, hd, hascii⟩ := see?_of_not_isAscii h hc c.utf8Size_pos
    exact ⟨d, hd, fun a ha => by rw [beq_eq_false_of_isAscii hascii a ha, beq_eq_false_of_isAscii hc a ha]⟩

/-- What passes over the bytes of longer characters one by one passes over the rest of every character
behind its first byte. -/
theorem eq_behind_of_step {α : Type} {f : ℕ → α} (h : w.At at_ (c :: cs))
    (hstep : ∀ i d, i < w.stop → see? w i = some d → isAscii d = false → f i = f (i + 1)) :
    f (at_ + 1) = f (at_ + c.utf8Size) := by
  have hpos := c.utf8Size_pos
  have hstop := h.stop
  rw [byteLength_cons] at hstop
  cases hc : isAscii c with
  | true => rw [utf8Size_of_isAscii hc]
  | false =>
    have hpass : ∀ k, k < c.utf8Size → f (at_ + 1) = f (at_ + (k + 1)) := by
      intro k hk
      induction k with
      | zero => rfl
      | succ k ih =>
        obtain ⟨d, hd, hascii⟩ := see?_of_not_isAscii h hc hk
        rw [ih (by omega), hstep _ d (by omega) hd hascii]
        rfl
    rw [hpass (c.utf8Size - 1) (by omega), Nat.sub_add_cancel hpos]

/-! ### Searches -/

theorem turn_of_not_isAscii (hstops : ∀ s ∈ stops, isAscii s) (hquote : ∀ q ∈ quote, isAscii q)
    (hc : isAscii c = false) : turn stops depth quote c = .passes depth quote := by
  have hne : ∀ a, isAscii a → c ≠ a := fun a ha => ne_of_beq_false (beq_eq_false_of_isAscii hc a ha)
  cases quote with
  | none =>
    have hstop : c ∉ stops := fun hmem => hne c (hstops c hmem) rfl
    simp [turn, hstop, hne '"' rfl, hne '\'' rfl, hne '(' rfl, hne ')' rfl]
  | some q => simp [turn, hne q (hquote q rfl), hne '\\' rfl]

theorem isAscii_of_turn {depth' : Int} {quote' : Option Char} (hquote : ∀ q ∈ quote, isAscii q)
    (h : turn stops depth quote c = .passes depth' quote') : ∀ q ∈ quote', isAscii q := by
  cases quote with
  | none =>
    simp only [turn] at h
    split at h
    · rename_i hc
      cases h
      simp only [Bool.or_eq_true, beq_iff_eq] at hc
      rintro q hq
      cases hq
      rcases hc with rfl | rfl <;> rfl
    · split at h
      · cases h
        simp
      · split at h
        · cases h
          simp
        · split at h
          · cases h
          · cases h
            simp
  | some q =>
    simp only [turn] at h
    split at h
    · cases h
      simp
    · split at h
      · cases h
      · cases h
        exact hquote

theorem findTop_end (h : w.stop ≤ at_) : findTop w stops depth quote at_ = some none := by
  rw [findTop, if_neg (Nat.not_lt.2 h)]
  rfl

theorem findTop_see (hlt : at_ < w.stop) (h : see? w at_ = some c) :
    findTop w stops depth quote at_ =
      match turn stops depth quote c with
      | .ends => some (some at_)
      | .passes depth quote => findTop w stops depth quote (at_ + 1)
      | .escapes => findTop w stops depth quote (at_ + 2) := by
  rw [findTop, if_pos hlt, h]
  rfl

theorem findTop_inside (depth : Int) (hstops : ∀ s ∈ stops, isAscii s) (hquote : ∀ q ∈ quote, isAscii q)
    (h : w.At at_ (c :: cs)) :
    findTop w stops depth quote (at_ + 1) = findTop w stops depth quote (at_ + c.utf8Size) := by
  refine eq_behind_of_step h fun i d hlt hd hascii => ?_
  rw [findTop_see hlt hd, turn_of_not_isAscii hstops hquote hascii]

/-- A search over bytes ends where the search over characters does. -/
theorem findTop_eq (hstops : ∀ s ∈ stops, isAscii s) (hquote : ∀ q ∈ quote, isAscii q) (h : w.At at_ cs) :
    findTop w stops depth quote at_ =
      some ((splitTopFrom stops depth quote cs).map fun p => at_ + byteLength p.1) := by
  induction hn : cs.length using Nat.strongRecOn generalizing depth quote at_ cs with
  | _ n ih =>
    subst hn
    cases cs with
    | nil => exact findTop_end h.stop.le
    | cons c cs =>
      have hpos := c.utf8Size_pos
      have hstop := h.stop
      rw [byteLength_cons] at hstop
      obtain ⟨d, hd, hturn⟩ : ∃ d, see? w at_ = some d ∧ turn stops depth quote d = turn stops depth quote c := by
        cases hc : isAscii c with
        | true => exact ⟨c, see?_of_isAscii h hc, rfl⟩
        | false =>
          obtain ⟨d, hd, hascii⟩ := see?_of_not_isAscii h hc hpos
          exact ⟨d, hd, by rw [turn_of_not_isAscii hstops hquote hascii, turn_of_not_isAscii hstops hquote hc]⟩
      rw [splitTopFrom_cons, findTop_see (by omega) hd, hturn]
      cases hgo : turn stops depth quote c with
      | ends => rfl
      | passes depth' quote' =>
        have hquote' := isAscii_of_turn hquote hgo
        simp only
        rw [findTop_inside depth' hstops hquote' h, ih cs.length (by simp) hquote' h.tail rfl, Option.map_map]
        simp [Function.comp_def, Nat.add_assoc]
      | escapes =>
        have hc : isAscii c := by
          by_contra hc
          rw [turn_of_not_isAscii hstops hquote (by simpa using hc)] at hgo
          cases hgo
        have hnext := h.next hc
        cases cs with
        | nil => exact findTop_end (by rw [hnext.stop]; exact Nat.le_succ _)
        | cons d cs =>
          have hlength : (c :: d :: cs).length = cs.length + 2 := rfl
          have hbehind := findTop_inside depth hstops hquote hnext
          simp only
          rw [hbehind, ih cs.length (by omega) hquote hnext.tail rfl, Option.map_map]
          simp [Function.comp_def, Nat.add_assoc, utf8Size_of_isAscii hc]

theorem findTop_splitTop (hstops : ∀ s ∈ stops, isAscii s) (h : w.At at_ cs) :
    findTop w stops 0 none at_ = some ((splitTop stops cs).map fun p => at_ + byteLength p.1) :=
  findTop_eq hstops (fun _ hq => by cases hq) h

theorem isAscii_titleEnds : ∀ s ∈ titleEnds, isAscii s := List.all_eq_true.1 (by decide)

theorem isAscii_braces : ∀ s ∈ braces, isAscii s := List.all_eq_true.1 (by decide)

/-- What stands at the end of a search, and what follows it. -/
theorem at_of_splitTop {mark : Char} (hstops : ∀ s ∈ stops, isAscii s) (h : w.At at_ cs)
    (hsplit : splitTop stops cs = some (as, mark, bs)) :
    see? w (at_ + byteLength as) = some mark ∧ w.At (at_ + byteLength as + 1) bs := by
  have hmark := hstops mark (isMark_of_splitTop hsplit).1
  rw [splitTopFrom_append hsplit] at h
  exact ⟨see?_of_isAscii h.right hmark, h.right.next hmark⟩

theorem closingFrom_eq {fuel depth : ℕ} (h : w.At at_ cs) (hfuel : cs.length < fuel) :
    closingFrom w fuel depth at_ = some ((blockBody depth cs).map fun p => at_ + byteLength p.1) := by
  induction fuel generalizing depth at_ cs with
  | zero => exact absurd hfuel (Nat.not_lt_zero _)
  | succ fuel ih =>
    rw [closingFrom, findTop_splitTop isAscii_braces h]
    cases hsplit : splitTop braces cs with
    | none =>
      rw [blockBody_of_none hsplit]
      rfl
    | some found =>
      obtain ⟨as, mark, bs⟩ := found
      obtain ⟨hsee, hbs⟩ := at_of_splitTop isAscii_braces h hsplit
      have hlength := splitTop_length hsplit
      have hmore : ∀ depth, closingFrom w fuel depth (at_ + byteLength as + 1) =
          some ((blockBody depth bs).map fun p => at_ + byteLength as + 1 + byteLength p.1) :=
        fun depth => ih hbs (by omega)
      have hinner : ∀ mark x, isAscii mark →
          at_ + byteLength as + 1 + byteLength x = at_ + byteLength (as ++ mark :: x) := by
        intro mark x hmark
        rw [byteLength_append, byteLength_cons, utf8Size_of_isAscii hmark, Nat.add_assoc, Nat.add_assoc]
      simp only [Option.map_some, Option.bind_eq_bind, Option.bind_some, hsee]
      rcases brace_of_splitTop hsplit with rfl | rfl
      · rw [if_pos (by decide), hmore, blockBody_open hsplit, Option.map_map]
        simp only [Function.comp_def, hinner '\x7b' _ rfl]
      · rw [if_neg (by decide)]
        cases depth with
        | zero =>
          rw [blockBody_zero hsplit]
          rfl
        | succ depth =>
          simp only
          rw [hmore, blockBody_succ hsplit, Option.map_map]
          simp only [Function.comp_def, hinner '\x7d' _ rfl]

theorem block?_eq (h : w.At at_ cs) :
    block? w at_ = some (at_ + byteLength (openBlock cs).body,
      if (openBlock cs).closed then at_ + byteLength (openBlock cs).body + 1 else at_ + byteLength (openBlock cs).body,
      (openBlock cs).closed) := by
  have hfuel : cs.length < w.stop - at_ + 1 := by
    have := length_le_byteLength cs
    rw [h.stop]
    omega
  rw [block?, closingFrom_eq h hfuel, openBlock]
  cases blockBody 0 cs with
  | some found => rfl
  | none => simp [h.stop]

/-! ### Declarations and selectors -/

theorem declarations_nil (l : Lines) (offset : ℕ) : declarations l offset [] = ([], []) := by
  rw [declarations]
  rfl

theorem declarationsFrom_end {fuel : ℕ} (h : w.stop ≤ at_) : declarationsFrom w (fuel + 1) at_ = some ([], []) := by
  rw [declarationsFrom, if_neg (Nat.not_lt.2 h)]
  rfl

theorem declarationsFrom_eq {fuel : ℕ} (h : w.At at_ cs) (hfuel : cs.length < fuel) :
    declarationsFrom w fuel at_ = some (declarations (lines w) at_ cs) := by
  induction fuel generalizing at_ cs with
  | zero => exact absurd hfuel (Nat.not_lt_zero _)
  | succ fuel ih =>
    cases cs with
    | nil => rw [declarationsFrom_end (by simpa using h.stop.le), declarations_nil]
    | cons c cs =>
      have hhere : at_ < w.stop := by
        have := c.utf8Size_pos
        rw [h.stop, byteLength_cons]
        omega
      rw [declarationsFrom, if_pos hhere, findTop_splitTop (List.forall_mem_singleton.2 rfl) h, declarations]
      split
      · rename_i hsplit
        have hleft : 0 < fuel := by
          rw [List.length_cons] at hfuel
          omega
        obtain ⟨fuel, rfl⟩ := Nat.exists_eq_add_one.2 hleft
        simp only [hsplit, Option.map_none, Option.getD_none, Option.bind_eq_bind, Option.bind_some, h.slice_stop,
          declarationsFrom_end (Nat.le_succ _), List.append_nil]
        rfl
      · rename_i piece mark rest hsplit
        have hlength := splitTop_length hsplit
        obtain ⟨-, hrest⟩ := at_of_splitTop (List.forall_mem_singleton.2 rfl) h hsplit
        rw [splitTopFrom_append hsplit] at h
        simp only [hsplit, Option.map_some, Option.getD_some, Option.bind_eq_bind, Option.bind_some, h.slice?,
          ih hrest (by omega)]
        rfl

theorem declarations?_eq (h : w.At start (as ++ bs)) :
    declarations? w start (start + byteLength as) = some (declarations (lines w) start as) := by
  have hfuel : as.length < start + byteLength as - start + 1 := by
    have := length_le_byteLength as
    omega
  exact declarationsFrom_eq h.left hfuel

theorem piecesFrom_see (hlt : at_ < w.stop) (h : see? w at_ = some c) :
    piecesFrom w depth start at_ =
      if c == '(' || c == '[' then piecesFrom w (depth + 1) start (at_ + 1)
      else if c == ')' || c == ']' then piecesFrom w (depth - 1) start (at_ + 1)
      else if c == ',' && depth == 0 then do
        let piece ← w.slice? start at_
        let more ← piecesFrom w depth (at_ + 1) (at_ + 1)
        return piece :: more
      else piecesFrom w depth start (at_ + 1) := by
  rw [piecesFrom, if_pos hlt, h]
  rfl

theorem piecesFrom_inside (h : w.At at_ (c :: cs)) :
    piecesFrom w depth start (at_ + 1) = piecesFrom w depth start (at_ + c.utf8Size) := by
  refine eq_behind_of_step h fun i d hlt hd hascii => ?_
  have hne := beq_eq_false_of_isAscii hascii
  rw [piecesFrom_see hlt hd, hne '(' rfl, hne '[' rfl, hne ')' rfl, hne ']' rfl, hne ',' rfl]
  rfl

theorem piecesFrom_eq (depth : Int) (h : w.At start (as ++ cs)) :
    piecesFrom w depth start (start + byteLength as) = some (prepend as (selectorPieces depth cs)) := by
  induction cs generalizing depth start as with
  | nil =>
    have hstop := h.right.stop
    rw [List.append_nil] at h
    rw [piecesFrom, if_neg (by simp [hstop]), h.slice_stop]
    simp [selectorPieces, prepend]
  | cons c cs ih =>
    have hpos := c.utf8Size_pos
    have hhere := h.right
    have hstop := hhere.stop
    rw [byteLength_cons] at hstop
    obtain ⟨d, hd, hseen⟩ := exists_see? hhere
    have hkeep : ∀ depth, piecesFrom w depth start (start + byteLength as + 1) =
        some (prepend as (prepend [c] (selectorPieces depth cs))) := by
      intro depth
      have happend : w.At start (as ++ [c] ++ cs) := by simpa using h
      have hmore := ih depth happend
      rw [byteLength_append, ← Nat.add_assoc] at hmore
      rw [piecesFrom_inside hhere, prepend_prepend, ← hmore]
      rfl
    rw [piecesFrom_see (by omega) hd, selectorPieces_cons, hseen '(' rfl, hseen '[' rfl, hseen ')' rfl,
      hseen ']' rfl, hseen ',' rfl]
    split
    · exact hkeep _
    · split
      · exact hkeep _
      · split
        · rename_i hcomma
          obtain rfl : c = ',' := by simp_all
          have hnext : w.At (start + byteLength as + 1) ([] ++ cs) := hhere.next rfl
          have hmore := ih depth hnext
          rw [byteLength_nil, Nat.add_zero] at hmore
          rw [h.slice?, hmore, prepend_nil]
          simp [prepend]
        · exact hkeep _

/-! ### Rules -/

/-- What a reader over characters has found, as offsets. -/
def ofItem : Style.Item → Item
  | .none => .none
  | .rule r => .rule r
  | .nesting name prelude offset body span => .nesting name prelude offset (offset + byteLength body) span

/-- What a reader over characters has found, without the text behind it. -/
def ofScan (s : Scan) : Found := ⟨ofItem s.item, s.problems, s.offset⟩

theorem isAscii_of_isAtNameChar (h : isAtNameChar c) : isAscii c := by
  simp only [isAtNameChar, Bool.or_eq_true, beq_iff_eq] at h
  rcases h with h | rfl
  · exact isAscii_of_isAlphanum h
  · rfl

/-- A block that is not closed extends to the end of the window. -/
theorem unclosed_eq (h : w.At at_ cs) (start : ℕ) (message : String) :
    (if (openBlock cs).closed then [] else [problem (lines w) start w.stop message]) =
      if (openBlock cs).closed then [] else
        [problem (lines w) start (at_ + byteLength (openBlock cs).body) message] := by
  rcases openBlock_cases cs with ⟨body, rest, rfl, hbody⟩ | hsealed
  · rw [hbody.openBlock_append]
    rfl
  · rw [hsealed.openBlock_eq, h.stop]

theorem declarations?_openBlock (h : w.At at_ cs) :
    declarations? w at_ (at_ + byteLength (openBlock cs).body) =
      some (declarations (lines w) at_ (openBlock cs).body) := by
  obtain ⟨tail, htail⟩ := openBlock_body_append cs
  rw [htail] at h
  exact declarations?_eq h

theorem atRule?_eq (h : w.At start ('@' :: cs)) : atRule? w start = some (ofScan (atRule (lines w) start cs)) := by
  have hname := h.next rfl
  have hskip := hname.skip fun _ => isAscii_of_isAtNameChar
  have hcs : cs = cs.takeWhile isAtNameChar ++ cs.dropWhile isAtNameChar := List.takeWhile_append_dropWhile.symm
  rw [atRule?, atRule, hskip]
  rw [hcs] at hname
  generalize cs.takeWhile isAtNameChar = name at *
  generalize cs.dropWhile isAtNameChar = afterName at *
  have hafter := hname.right
  simp only [hname.slice?, findTop_splitTop isAscii_titleEnds hafter, Option.bind_eq_bind, Option.bind_some]
  cases hsplit : splitTop titleEnds afterName with
  | none =>
    simp only [Option.map_none, hafter.slice_stop, Option.bind_some]
    rw [hafter.stop]
    rfl
  | some found =>
    obtain ⟨before, mark, rest⟩ := found
    obtain ⟨hsee, hrest⟩ := at_of_splitTop isAscii_titleEnds hafter hsplit
    have hbody := declarations?_openBlock hrest
    rw [splitTopFrom_append hsplit] at hafter
    simp only [Option.map_some, hafter.slice?, Option.bind_some, hsee]
    split
    · rfl
    · split
      · rfl
      · simp only [block?_eq hrest, Option.bind_some]
        rw [unclosed_eq hrest]
        split
        · rfl
        · rw [hbody]
          rfl

theorem piecesFrom_whole (text : List Char) :
    piecesFrom ⟨text, byteLength text⟩ 0 0 0 = some (selectorPieces 0 text) := by
  have hwhole : (⟨text, byteLength text⟩ : Window).At 0 ([] ++ text) := ⟨stands_self text, by simp⟩
  have hpieces := piecesFrom_eq 0 hwhole
  rwa [prepend_nil] at hpieces

theorem styleRule?_eq (h : w.At start cs) : styleRule? w start = some (ofScan (styleRule (lines w) start cs)) := by
  rw [styleRule?, styleRule]
  simp only [findTop_splitTop isAscii_titleEnds h, Option.bind_eq_bind, Option.bind_some]
  cases hsplit : splitTop titleEnds cs with
  | none =>
    simp only [Option.map_none, h.stop]
    rfl
  | some found =>
    obtain ⟨before, mark, rest⟩ := found
    obtain ⟨hsee, hrest⟩ := at_of_splitTop isAscii_titleEnds h hsplit
    have hbody := declarations?_openBlock hrest
    rw [splitTopFrom_append hsplit] at h
    simp only [Option.map_some, Option.bind_some, hsee]
    by_cases hsemicolon : mark = ';'
    · subst hsemicolon
      rfl
    · by_cases hclose : mark = '\x7d'
      · subst hclose
        rfl
      · obtain rfl := eq_brace_of_splitTop hsplit (by simpa using hsemicolon) (by simpa using hclose)
        simp only [beq_self_eq_true, if_true, h.slice?, Option.bind_some, piecesFrom_whole, block?_eq hrest, hbody]
        rw [unclosed_eq hrest]
        rfl

/-- The item at a character, when another one that is as good as it is seen. -/
theorem item?_eq {d : Char} (h : w.At start (c :: cs)) (hseen : ∀ a, isAscii a → (d == a) = (c == a)) :
    item? w d start = some (ofScan (item (lines w) start c cs)) := by
  rw [item?, item, hseen '\x7d' rfl, hseen ';' rfl, hseen '@' rfl]
  split
  · rfl
  · split
    · rfl
    · split
      · rename_i hat
        obtain rfl := eq_of_beq hat
        exact atRule?_eq h
      · exact styleRule?_eq h

/-- The text behind an item, and the content of the block of a nesting rule in a window of its own. -/
theorem at_of_item (h : w.At start (c :: cs)) (hc : isAsciiBlank c = false) :
    w.At (item (lines w) start c cs).offset (item (lines w) start c cs).rest ∧
      ∀ name prelude offset body span, (item (lines w) start c cs).item = .nesting name prelude offset body span →
        ({ w with stop := offset + byteLength body } : Window).At offset body := by
  by_cases hclose : c = '\x7d'
  · subst hclose
    exact ⟨h.next rfl, fun _ _ _ _ _ hitem => by cases hitem⟩
  · obtain ⟨used, htakes⟩ := item_takes (lines w) start cs hc hclose
    have hcut := h
    rw [htakes.append] at hcut
    refine ⟨by rw [htakes.offset]; exact hcut.right, fun name prelude offset body span hitem => ?_⟩
    have htaken := htakes.taken
    rw [hitem] at htaken
    cases htaken with
    | nesting heads whole_eq problems =>
      subst whole_eq
      exact ⟨heads.stands_body hcut.stands.left, rfl⟩

theorem rulesFrom_eq {nested : Bool} {fuel : ℕ} (h : w.At at_ cs) (hfuel : cs.length < fuel) :
    rulesFrom nested fuel w at_ = some (readRules (lines w) nested at_ cs) := by
  induction fuel generalizing nested w at_ cs with
  | zero => exact absurd hfuel (Nat.not_lt_zero _)
  | succ fuel ih =>
    have hsource : ¬ (utf8 w.source).length < w.stop := by
      obtain ⟨before, after, hsource, rfl⟩ := h.stands
      rw [h.stop, length_utf8, hsource]
      simp
    obtain ⟨hskip, hhere⟩ := skip_blanks h
    have hlength := dropWhile_length isAsciiBlank cs
    have hhead := List.head?_dropWhile_not isAsciiBlank cs
    rw [rulesFrom, readRules_eq]
    rw [if_neg hsource, hskip]
    generalize at_ + byteLength (cs.takeWhile isAsciiBlank) = here at *
    generalize cs.dropWhile isAsciiBlank = text at *
    cases text with
    | nil => exact if_pos (by rw [hhere.stop]; rfl)
    | cons c rest =>
      have hstop : ¬ w.stop ≤ here := by
        have := c.utf8Size_pos
        rw [hhere.stop, byteLength_cons]
        omega
      have hc : isAsciiBlank c = false := by simpa using hhead
      obtain ⟨d, hd, hseen⟩ := exists_see? hhere
      obtain ⟨hrest, hblock⟩ := at_of_item hhere hc
      obtain ⟨hshorter, hinner⟩ := item_length (lines w) here c rest
      rw [if_neg hstop, hd]
      simp only [Option.bind_eq_bind, Option.bind_some, hseen '\x7d' rfl]
      split
      · rfl
      · simp only [item?_eq hhere hseen, Option.bind_some, ofScan, ih hrest (by omega), Scan.rules]
        generalize item (lines w) here c rest = scan at *
        cases hitem : scan.item with
        | none => rfl
        | rule r => rfl
        | nesting name prelude offset body span =>
          have := hinner _ _ _ _ _ hitem
          simp only [ofItem, ih (hblock _ _ _ _ _ hitem) (by omega), Option.bind_some]
          rfl

/-- Every text is read to its end: no cut fails, and nothing is looked for beyond its end. -/
theorem sheet?_eq (text : String) : sheet? text = some (Sheet.read text) := by
  have hwhole : (⟨blankComments text.toList, byteLength (blankComments text.toList)⟩ : Window).At 0
      (blankComments text.toList) := ⟨stands_self _, by simp⟩
  have hfuel := Nat.lt_succ_of_le (length_le_byteLength (blankComments text.toList))
  rw [sheet?]
  dsimp only
  rw [rulesFrom_eq hwhole hfuel]
  rfl

/-- Every style sheet is read to its end, and rules in order and problems account for all of it, at every
depth. -/
theorem read_accounted (text : String) :
    sheet? text = some (Sheet.read text) ∧
      Covered (blankComments text.toList) 0 (blankComments text.toList) (Sheet.read text).rules
        (Sheet.read text).problems :=
  ⟨sheet?_eq text, (read_divided text).covered (stands_self _)⟩

end ComponentAtlas.Style.Bytewise

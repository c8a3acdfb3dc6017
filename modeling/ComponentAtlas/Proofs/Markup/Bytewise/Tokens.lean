import ComponentAtlas.Proofs.Markup.Bytewise.Tags

/-!
# Tokens byte by byte

The scanner over bytes finds the tokens that the scanner over characters finds, and it finds them in a
number of steps that the length of the text bounds. So no cut that it makes fails.

* `text?_eq`, `simple?_eq`: texts and the other simple pieces;
* `expansionHead?_cases`, `caseHead?_eq`, `matchingFrom_eq`: the parts of an expansion;
* `Suffices`: what the scanner finds in a given number of steps;
* `document?_eq`: every source has a tree.
-/

namespace ComponentAtlas.Markup.Bytewise

open ComponentAtlas.Text ComponentAtlas.Source ComponentAtlas.Template

variable {w : Window} {start : ℕ} {c : Char} {cs as bs : List Char} {α : Type}

/-! ### Texts -/

theorem nameStartsAt_eq (h : w.At start cs) : nameStartsAt w start = nameStarts cs := by
  cases cs with
  | nil => exact h.test_nil _
  | cons c cs => exact test_eq h isAscii_of_isNameStart

theorem atMarkupAt_eq (h : w.At start (c :: cs)) : atMarkupAt w start = atMarkup (c :: cs) := by
  rw [atMarkupAt, test_char h '<' rfl, test_char h '\x7b' rfl, h.startsWith (by decide)]
  by_cases hbrace : c = '\x7b'
  · subst hbrace
    simp [atMarkup]
  · by_cases hlt : c = '<'
    · subst hlt
      have hnext := h.next rfl
      rw [nameStartsAt_eq hnext, test_char hnext '/' rfl]
      cases cs with
      | nil => simp [atMarkup, dropLiteral?, nameStarts]
      | cons d cs =>
        by_cases hslash : d = '/'
        · subst hslash
          have hbody : w.At (start + 2) cs := hnext.next rfl
          rw [nameStartsAt_eq hbody]
          simp [atMarkup, dropLiteral?, nameStarts, isNameStart]
        · simp [atMarkup, dropLiteral?, hslash, Bool.or_comm]
    · simp [atMarkup, hbrace, hlt]

theorem textEndFrom_add {k fuel at_ : ℕ} {text : ℕ} (hstop : at_ + k ≤ w.stop)
    (hplain : ∀ i < k, w.startsWith ['\x7b', '\x7b'] (at_ + i) = false ∧
      (text < at_ + i && atMarkupAt w (at_ + i)) = false) :
    textEndFrom w text (k + fuel) at_ = textEndFrom w text fuel (at_ + k) := by
  induction k generalizing at_ with
  | zero => rw [Nat.zero_add, Nat.add_zero]
  | succ k ih =>
    obtain ⟨hbraces, hmarkup⟩ := hplain 0 (Nat.succ_pos k)
    rw [Nat.add_zero] at hbraces hmarkup
    have hstop' : at_ + 1 + k ≤ w.stop := by omega
    have hmore := ih hstop' fun i hi => by
      rw [Nat.add_assoc, Nat.add_comm 1]
      exact hplain (i + 1) (Nat.succ_lt_succ hi)
    rw [Nat.add_right_comm, textEndFrom, if_pos (by omega), hbraces, hmarkup, if_neg (by decide),
      if_neg (by decide), hmore, Nat.add_assoc, Nat.add_comm 1]

/-- A character that is not the end of a text is passed over, byte by byte. -/
theorem textEndFrom_cons {text fuel : ℕ} (h : w.At start (c :: cs))
    (hbraces : w.startsWith ['\x7b', '\x7b'] start = false)
    (hmarkup : (text < start && atMarkupAt w start) = false) :
    textEndFrom w text (c.utf8Size + fuel) start = textEndFrom w text fuel (start + c.utf8Size) := by
  refine textEndFrom_add (by rw [h.stop, byteLength_cons]; omega) fun i hi => ?_
  rcases Nat.eq_zero_or_pos i with rfl | hpos
  · exact ⟨hbraces, hmarkup⟩
  · have hinside := fun p => h.test_inside p hpos hi
    simp [Window.startsWith, atMarkupAt, hinside]

/-- Behind an interpolation a text goes on. -/
theorem textEndFrom_braces (text fuel : ℕ) (h : w.At start ('\x7b' :: '\x7b' :: cs)) :
    ∃ at_, start + 2 ≤ at_ ∧ w.At at_ (afterInterpolation cs) ∧
      textEndFrom w text (fuel + 1) start = textEndFrom w text fuel at_ := by
  have hbody : w.At (start + 2) cs := (h.next rfl).next rfl
  have hstop := hbody.stop
  have hbraces : w.startsWith ['\x7b', '\x7b'] start = true := h.startsWith (by decide)
  rw [textEndFrom, if_pos (by omega), if_pos hbraces, findLiteral?_eq hbody, afterInterpolation]
  cases hsplit : splitAtLiteral ['\x7d', '\x7d'] cs with
  | none => exact ⟨w.stop, by omega, hbody.end, rfl⟩
  | some parts =>
    obtain ⟨before, behind⟩ := parts
    have hclose : byteLength ['\x7d', '\x7d'] = 2 := rfl
    rw [splitAtLiteral_append hsplit] at hbody
    have hbehind := hbody.right
    rw [byteLength_append, hclose, ← Nat.add_assoc] at hbehind
    exact ⟨start + 2 + byteLength before + 2, by omega, hbehind, rfl⟩

theorem startsWith_braces_eq_false (h : w.At start (c :: cs))
    (hcs : ∀ rest, c = '\x7b' → cs = '\x7b' :: rest → False) : w.startsWith ['\x7b', '\x7b'] start = false :=
  h.startsWith_eq_false (by decide) fun rest hcons => hcs rest (List.cons.inj hcons).1 (List.cons.inj hcons).2

/-- The end of a text that has begun, found in at most one step for each byte. -/
theorem textEndFrom_eq {text fuel : ℕ} (h : w.At start cs) (htext : text < start)
    (hfuel : byteLength cs < fuel) :
    textEndFrom w text fuel start = some (w.stop - byteLength (textEnd cs)) := by
  have hstop := h.stop
  -- The induction follows the characters; the bytes of one character are passed over together.
  fun_induction textEnd cs generalizing start fuel with
  | case1 =>
    obtain ⟨fuel, rfl⟩ := Nat.exists_eq_add_one.2 (Nat.lt_of_le_of_lt (Nat.zero_le _) hfuel)
    rw [textEndFrom, if_neg (by simp [hstop]), hstop]
    rfl
  | case2 rest ih =>
    obtain ⟨fuel, rfl⟩ := Nat.exists_eq_add_one.2 (Nat.lt_of_le_of_lt (Nat.zero_le _) hfuel)
    obtain ⟨at_, hle, hat, hstep⟩ := textEndFrom_braces text fuel h
    have hstop' := hat.stop
    rw [hstep]
    exact ih hat (by omega) (by omega) hstop'
  | case3 c rest hbraces hmarkup =>
    obtain ⟨fuel, rfl⟩ := Nat.exists_eq_add_one.2 (Nat.lt_of_le_of_lt (Nat.zero_le _) hfuel)
    have hhere : start < w.stop := by
      have := c.utf8Size_pos
      rw [hstop, byteLength_cons]
      omega
    have hend : (decide (text < start) && atMarkupAt w start) = true := by
      rw [atMarkupAt_eq h, hmarkup, decide_eq_true htext]
      rfl
    rw [textEndFrom, if_pos hhere, startsWith_braces_eq_false h hbraces, if_neg (by decide), if_pos hend,
      hstop, Nat.add_sub_cancel]
  | case4 c rest hbraces hmarkup ih =>
    rw [byteLength_cons] at hfuel
    obtain ⟨fuel, rfl⟩ := Nat.exists_eq_add_of_le (Nat.le_of_lt
      (Nat.lt_of_le_of_lt (Nat.le_add_right _ _) hfuel))
    rw [textEndFrom_cons h (startsWith_braces_eq_false h hbraces) (by simp [atMarkupAt_eq h, hmarkup])]
    exact ih h.tail (by omega) (by omega) h.tail.stop

/-- The end of a text, whose first character belongs to it in any case. -/
theorem textEndFrom_start {fuel : ℕ} (h : w.At start (c :: cs)) (hfuel : byteLength (c :: cs) < fuel) :
    textEndFrom w start fuel start = some (w.stop - byteLength (afterText (c :: cs))) := by
  have hpos := c.utf8Size_pos
  have hstop := h.stop
  unfold afterText
  split
  · rename_i heq
    cases heq
  · rename_i rest heq
    rw [heq] at h
    obtain ⟨fuel, rfl⟩ := Nat.exists_eq_add_one.2 (Nat.lt_of_le_of_lt (Nat.zero_le _) hfuel)
    obtain ⟨at_, hle, hat, hstep⟩ := textEndFrom_braces start fuel h
    have hstop' := hat.stop
    rw [hstep]
    exact textEndFrom_eq hat (by omega) (by omega)
  · rename_i rest hbraces heq
    cases heq
    rw [byteLength_cons] at hfuel
    obtain ⟨fuel, rfl⟩ := Nat.exists_eq_add_of_le (Nat.le_of_lt
      (Nat.lt_of_le_of_lt (Nat.le_add_right _ _) hfuel))
    rw [textEndFrom_cons h (startsWith_braces_eq_false h hbraces) (by simp)]
    exact textEndFrom_eq h.tail (by omega) (by omega)

theorem text?_eq (h : w.At start (c :: cs)) :
    text? w start = some (ofScan (textToken (lines w) start (c :: cs))) := by
  have hsuffix := afterText_suffix (c :: cs)
  have hfuel : byteLength (c :: cs) < w.stop - start + 1 := by
    rw [h.stop]
    omega
  have hend := textEndFrom_start h hfuel
  rw [text?, hend, textToken]
  generalize c :: cs = text at *
  generalize afterText text = rest at *
  obtain ⟨raw, rfl⟩ := hsuffix
  -- A text ends between characters, so there is nothing to round.
  have hrest := h.right
  obtain ⟨after, hcut⟩ := hrest.boundary
  have hoffset : w.stop - byteLength rest = start + byteLength raw := by
    have := hrest.stop
    omega
  have hround : roundUp w (w.stop - (start + byteLength raw) + 1) (start + byteLength raw) =
      some (start + byteLength raw) := by
    rw [roundUp, hcut]
    rfl
  simp only [Option.bind_eq_bind, Option.bind_some, hoffset, hround, h.slice?]
  simp [ofScan]

/-! ### Simple pieces -/

theorem simple?_eq (h : w.At start (c :: cs)) :
    simple? w start = some (ofScan (simpleLexeme (lines w) start (c :: cs))) := by
  have htext := text?_eq h
  have hlt := test_char h '<' rfl
  generalize c :: cs = text at *
  unfold simpleLexeme
  split
  · rename_i body
    have hopen : w.startsWith ['<', '!', '-', '-'] start = true := h.startsWith (by decide)
    rw [simple?, if_pos hopen]
    exact comment?_eq h
  · rename_i body
    have hopen : w.startsWith ['<', '!', '-', '-'] start = false :=
      h.startsWith_eq_false (by decide) fun rest => by simp
    have hend : w.startsWith ['<', '/'] start = true := h.startsWith (by decide)
    have hnext := h.next rfl
    have hbody : w.At (start + 2) body := hnext.next rfl
    have hslash : nameStarts ('/' :: body) = false := rfl
    rw [simple?, hopen, hend, nameStartsAt_eq hbody, nameStartsAt_eq hnext, hslash, Bool.and_false]
    cases nameStarts body with
    | true => exact endTag?_eq h
    | false => exact htext
  · rename_i body hnotComment hnotEnd
    have hopen : w.startsWith ['<', '!', '-', '-'] start = false :=
      h.startsWith_eq_false (by decide) fun rest hcons => hnotComment rest (List.cons.inj hcons).2
    have hend : w.startsWith ['<', '/'] start = false :=
      h.startsWith_eq_false (by decide) fun rest hcons => hnotEnd rest (List.cons.inj hcons).2
    rw [simple?, hopen, hend, hlt, nameStartsAt_eq (h.next rfl)]
    cases nameStarts body with
    | true => exact startTag?_eq h
    | false => exact htext
  · rename_i hnotComment hnotEnd hnotStart
    have hopen : w.startsWith ['<', '!', '-', '-'] start = false :=
      h.startsWith_eq_false (by decide) fun rest hcons => hnotComment rest hcons
    have hend : w.startsWith ['<', '/'] start = false :=
      h.startsWith_eq_false (by decide) fun rest hcons => hnotEnd rest hcons
    have hstart : w.test (· == '<') start = false :=
      test_char_eq_false h rfl fun rest hcons => hnotStart rest hcons
    rw [simple?, hopen, hend, hstart]
    exact htext

/-! ### Expansions -/

theorem matchingFrom_add {k n depth at_ : ℕ}
    (hplain : ∀ i < k, w.test (· == '\x7b') (at_ + i) = false ∧ w.test (· == '\x7d') (at_ + i) = false) :
    matchingFrom w (k + n) depth at_ = matchingFrom w n depth (at_ + k) := by
  induction k generalizing at_ with
  | zero => rw [Nat.zero_add, Nat.add_zero]
  | succ k ih =>
    obtain ⟨hopen, hclose⟩ := hplain 0 (Nat.succ_pos k)
    rw [Nat.add_zero] at hopen hclose
    have hmore : ∀ i < k,
        w.test (· == '\x7b') (at_ + 1 + i) = false ∧ w.test (· == '\x7d') (at_ + 1 + i) = false := by
      intro i hi
      rw [Nat.add_assoc, Nat.add_comm 1]
      exact hplain (i + 1) (Nat.succ_lt_succ hi)
    rw [Nat.add_right_comm, matchingFrom, hopen, hclose, if_neg (by decide), if_neg (by decide), ih hmore,
      Nat.add_assoc, Nat.add_comm 1]

/-- The brace that closes an open one. The scanner counts that one too. -/
theorem matchingFrom_eq (depth : ℕ) (h : w.At start cs) :
    matchingFrom w (w.stop - start) (depth + 1) start =
      (untilBrace depth cs).map fun p => start + byteLength p.1 := by
  rw [h.stop, Nat.add_sub_cancel_left]
  induction cs generalizing start depth with
  | nil => rfl
  | cons c cs ih =>
    have hopen : w.test (· == '\x7b') start = (c == '\x7b') := test_eq h (isAscii_of_eq rfl)
    have hclose : w.test (· == '\x7d') start = (c == '\x7d') := test_eq h (isAscii_of_eq rfl)
    rw [untilBrace, byteLength_cons]
    by_cases hbrace : c = '\x7b'
    · subst hbrace
      have hsize : '\x7b'.utf8Size = 1 := rfl
      rw [hsize, Nat.add_comm 1, matchingFrom, if_pos (by simp [hopen]), ih _ (h.next rfl)]
      simp [Function.comp_def, hsize, Nat.add_assoc]
    · by_cases hend : c = '\x7d'
      · subst hend
        have hsize : '\x7d'.utf8Size = 1 := rfl
        rw [hsize, Nat.add_comm 1, matchingFrom, if_neg (by simp [hopen]), if_pos (by simp [hclose]),
          Nat.add_sub_cancel]
        cases depth with
        | zero => rfl
        | succ depth =>
          rw [if_neg (Nat.succ_ne_zero depth), ih _ (h.next rfl)]
          simp [Function.comp_def, hsize, Nat.add_assoc]
      · have hplain : ∀ i < c.utf8Size,
            w.test (· == '\x7b') (start + i) = false ∧ w.test (· == '\x7d') (start + i) = false := by
          intro i hi
          rcases Nat.eq_zero_or_pos i with rfl | hpos
          · simp [hopen, hclose, hbrace, hend]
          · exact ⟨h.test_inside _ hpos hi, h.test_inside _ hpos hi⟩
        rw [matchingFrom_add hplain, ih _ h.tail]
        simp [hbrace, hend, Function.comp_def, Nat.add_assoc]

theorem splitOnce_eq (c : Char) (cs : List Char) :
    splitOnce c cs =
      match cs.dropWhile (· != c) with
      | [] => none
      | _ :: rest => some (cs.takeWhile (· != c), rest) := by
  induction cs with
  | nil => rfl
  | cons d cs ih =>
    rw [splitOnce, ih]
    by_cases hd : d = c
    · simp [hd]
    · have hne : (d != c) = true := by simpa using hd
      simp only [List.dropWhile_cons, List.takeWhile_cons, hne, if_true]
      cases cs.dropWhile (· != c) <;> simp [hd]

theorem find?_splitOnce (h : w.At start cs) (hc : isAscii c) :
    find? w c start = (splitOnce c cs).map fun p => start + byteLength p.1 := by
  rw [find?_eq h hc, splitOnce_eq]
  cases cs.dropWhile (· != c) <;> rfl

/-- Where a text has no head of an expansion, it is none; else its cases decide. -/
theorem expansionHead?_cases {body : List Char} (h : w.At start ('\x7b' :: body)) :
    (expansionHead? w start = some none ∧ openExpansion (lines w) start body = none) ∨
    ∃ switch kind at_ rest, expansionHead? w start = some (some (switch, kind, at_)) ∧
      w.At at_ rest ∧ rest.length + 2 ≤ body.length ∧
      openExpansion (lines w) start body = (openCases (lines w) at_ rest).bind fun p =>
        if p.1.isEmpty then none
        else some (⟨switch, kind, p.1, (lines w).span start p.2.1⟩, p.2.1, p.2.2) := by
  have hbody := h.next rfl
  rw [expansionHead?, find?_splitOnce hbody rfl, openExpansion]
  cases hswitch : splitOnce ',' body with
  | none => exact .inl ⟨rfl, rfl⟩
  | some parts =>
    obtain ⟨switch, afterSwitch⟩ := parts
    have hlength := splitOnce_length hswitch
    rw [splitOnce_append hswitch] at hbody
    have hafter := hbody.right.next rfl
    simp only [Option.map_some, hbody.slice?, Option.bind_eq_bind, Option.bind_some]
    split
    · exact .inl ⟨rfl, rfl⟩
    · rw [find?_splitOnce hafter rfl]
      cases hkind : splitOnce ',' afterSwitch with
      | none => exact .inl ⟨rfl, rfl⟩
      | some parts =>
        obtain ⟨kind, afterKind⟩ := parts
        have hlength' := splitOnce_length hkind
        rw [splitOnce_append hkind] at hafter
        have hrest := hafter.right.next rfl
        simp only [Option.map_some, hafter.slice?, Option.bind_some]
        split
        · exact .inl ⟨rfl, rfl⟩
        · refine .inr ⟨_, _, _, afterKind, rfl, hrest, by omega, ?_⟩
          have hoffset : start + byteLength switch + byteLength kind + 3 =
              start + 1 + byteLength switch + 1 + byteLength kind + 1 := by omega
          rw [hoffset]
          cases openCases (lines w) _ afterKind <;> rfl

theorem caseHead?_eq (h : w.At start cs) :
    caseHead? w start =
      some ((caseHead cs).map fun p => (p.1, start + byteLength p.1 + byteLength p.2.1 + 1)) := by
  have hseek := h.seek_not fun c hc => isAscii_of_not_isCaseChar hc
  rw [caseHead?, hseek, caseHead]
  rw [← List.takeWhile_append_dropWhile (p := isCaseChar) (l := cs)] at h
  generalize cs.takeWhile isCaseChar = value at *
  generalize cs.dropWhile isCaseChar = behind at *
  obtain ⟨hskip, hblanks⟩ := skip_blanks h.right
  cases value with
  | nil => simp
  | cons c value =>
    have hpos := c.utf8Size_pos
    have hsome : start + byteLength (c :: value) ≠ start := by
      rw [byteLength_cons]
      omega
    rw [if_neg hsome]
    simp only [h.slice?, Option.bind_eq_bind, Option.bind_some, hskip, test_char hblanks '\x7b' rfl]
    cases behind.dropWhile isAsciiBlank with
    | nil => rfl
    | cons d inner =>
      by_cases hd : d = '\x7b'
      · subst hd
        rfl
      · simp [hd]

/-! ### All tokens -/

/-- The case of a token whose content is read. -/
def closeCase (lines : Lines) (k : OpenCase) : TokenCase :=
  .mk k.value (tokens lines k.contentStart k.content) k.span

/-- The token of an expansion whose cases are read. -/
def closeExpansion (lines : Lines) (e : OpenExpansion) : Token :=
  .expansion e.switch e.kind (e.cases.map (closeCase lines)) e.span

/-- A number of steps that suffices for every text with fewer characters. -/
structure Suffices (fuel : ℕ) : Prop where
  tokens : ∀ {w start cs}, Window.At w start cs → cs.length < fuel →
    tokensFrom w fuel start = some (Markup.tokens (lines w) start cs)
  expansion : ∀ {w start cs}, Window.At w start cs → cs.length ≤ fuel → 0 < fuel →
    expansionFrom w fuel start =
      some ((expansionLexeme (lines w) start cs).map fun p => (closeExpansion (lines w) p.1, p.2.1))
  cases : ∀ {w start cs}, Window.At w start cs → cs.length < fuel →
    casesFrom w fuel start =
      some ((openCases (lines w) start cs).map fun p => (p.1.map (closeCase (lines w)), p.2.1))

theorem stop_le_of_at (h : w.At start cs) : w.stop ≤ (utf8 w.source).length := by
  obtain ⟨before, after, hsource, rfl⟩ := h.stands
  rw [h.stop, length_utf8, hsource]
  simp

theorem tokensFrom_succ {fuel : ℕ} (ih : Suffices fuel) (h : w.At start cs) (hfuel : cs.length < fuel + 1) :
    tokensFrom w (fuel + 1) start = some (tokens (lines w) start cs) := by
  rw [tokensFrom, if_neg (Nat.not_lt.2 (stop_le_of_at h))]
  cases cs with
  | nil =>
    rw [if_neg (by simp [h.stop]), tokens_nil]
  | cons c cs =>
    have hpos := c.utf8Size_pos
    have hhere : start < w.stop := by
      rw [h.stop, byteLength_cons]
      omega
    rw [List.length_cons] at hfuel
    rw [if_pos hhere, ih.expansion h (Nat.le_of_lt_succ hfuel) (by omega)]
    cases hexpansion : expansionLexeme (lines w) start (c :: cs) with
    | some e =>
      obtain ⟨e, stop, rest⟩ := e
      obtain ⟨taken, hcut, rfl⟩ := (expansionLexeme_read h.stands hexpansion).reads
      have hlength := (expansionLexeme_length hexpansion).1
      rw [hcut] at h
      rw [List.length_cons] at hlength
      simp only [Option.bind_eq_bind, Option.bind_some, Option.map_some, ih.tokens h.right (by omega),
        tokens_of_expansion hexpansion]
      rfl
    | none =>
      have hlength := simpleLexeme_length (lines w) start c cs
      have hrest : w.At (simpleLexeme (lines w) start (c :: cs)).offset _ :=
        at_of_sound (simpleLexeme_read h.stands).sound h
      rw [List.length_cons] at hlength
      simp only [Option.bind_eq_bind, Option.bind_some, Option.map_none, simple?_eq h, ofScan_offset,
        ih.tokens hrest (by omega), tokens_of_simple hexpansion]
      rfl

theorem expansionFrom_succ {fuel : ℕ} (ih : Suffices fuel) (h : w.At start cs)
    (hfuel : cs.length ≤ fuel + 1) :
    expansionFrom w (fuel + 1) start =
      some ((expansionLexeme (lines w) start cs).map fun p => (closeExpansion (lines w) p.1, p.2.1)) := by
  have hbrace := test_char h '\x7b' rfl
  unfold expansionLexeme
  split
  · have hnext := test_char (h.next rfl) '\x7b' rfl
    rw [expansionFrom, if_neg (by simp [hnext])]
    rfl
  · rename_i body hnot
    have hnext : w.test (· == '\x7b') (start + 1) = false := test_char_eq_false (h.next rfl) rfl hnot
    rw [List.length_cons] at hfuel
    rw [expansionFrom, if_pos (by simp [hbrace, hnext])]
    obtain ⟨hhead, hnone⟩ | ⟨switch, kind, at_, rest, hhead, hrest, hlength, hopen⟩ := expansionHead?_cases h
    · rw [hhead, hnone]
      rfl
    · rw [hhead, hopen]
      simp only [Option.bind_eq_bind, Option.bind_some, ih.cases hrest (by omega)]
      cases openCases (lines w) at_ rest with
      | none => rfl
      | some found =>
        obtain ⟨cases, stop, behind⟩ := found
        cases cases <;> rfl
  · rename_i hdouble hnot
    have hhere : w.test (· == '\x7b') start = false := test_char_eq_false h rfl hnot
    rw [expansionFrom, if_neg (by simp [hhere])]
    rfl

theorem casesFrom_succ {fuel : ℕ} (ih : Suffices fuel) (h : w.At start cs) (hfuel : cs.length < fuel + 1) :
    casesFrom w (fuel + 1) start =
      some ((openCases (lines w) start cs).map fun p => (p.1.map (closeCase (lines w)), p.2.1)) := by
  obtain ⟨hskip, hblanks⟩ := skip_blanks h
  have hlength := dropWhile_length isAsciiBlank cs
  have hbrace := test_char hblanks '\x7d' rfl
  have hhead := caseHead?_eq hblanks
  rw [openCases]
  generalize start + byteLength (cs.takeWhile isAsciiBlank) = here at *
  generalize cs.dropWhile isAsciiBlank = text at *
  dsimp only
  split
  · rename_i rest
    rw [casesFrom, hskip, hbrace]
    rfl
  · rename_i hnot
    have hclose : w.test (· == '\x7d') here = false := test_char_eq_false hblanks rfl hnot
    split
    · rename_i hnone
      rw [hnone] at hhead
      rw [casesFrom, hskip, hclose, hhead]
      rfl
    · rename_i value gap inner hsome
      rw [hsome] at hhead
      have hshorter := caseHead_length hsome
      rw [caseHead_append hsome] at hblanks
      have hinner := hblanks.right
      have hopen : byteLength ['\x7b'] = 1 := rfl
      rw [byteLength_append, byteLength_append, hopen, ← Nat.add_assoc, ← Nat.add_assoc] at hinner
      have hmatching := matchingFrom_eq 0 hinner
      split
      · rename_i hnone
        rw [hnone] at hmatching
        simp only [casesFrom, hskip, hclose, hhead, Option.bind_eq_bind, Option.bind_some, Option.map_some,
          hmatching]
        rfl
      · rename_i content rest hcontent
        rw [hcontent] at hmatching
        have hlengths := untilBrace_length hcontent
        rw [untilBrace_append hcontent] at hinner
        have hrest := hinner.right.next rfl
        -- The content stands in a window that ends at the closing brace.
        have htokens := ih.tokens hinner.left (by omega)
        have hcases := ih.cases hrest (by omega)
        simp only [casesFrom, hskip, hclose, hhead, Option.bind_eq_bind, Option.bind_some, Option.map_some,
          hmatching, htokens, hcases]
        cases openCases (lines w) _ rest with
        | none => rfl
        | some more => rfl

theorem suffices_all (fuel : ℕ) : Suffices fuel := by
  induction fuel with
  | zero => exact ⟨fun _ h => absurd h (Nat.not_lt_zero _), fun _ _ h => absurd h (Nat.lt_irrefl 0),
      fun _ h => absurd h (Nat.not_lt_zero _)⟩
  | succ fuel ih =>
    exact ⟨fun h hfuel => tokensFrom_succ ih h hfuel, fun h hfuel _ => expansionFrom_succ ih h hfuel,
      fun h hfuel => casesFrom_succ ih h hfuel⟩

/-- Every source is read to its end, and no cut fails. -/
theorem document?_eq (source : String) : document? source = some (Document.read source) := by
  have hsize := byteLength_toList source
  have hwhole : (⟨source.toList, source.utf8ByteSize⟩ : Window).At 0 source.toList :=
    ⟨stands_self source.toList, by rw [hsize, Nat.zero_add]⟩
  have hfuel : source.toList.length < source.utf8ByteSize + 1 := by
    have := length_le_byteLength source.toList
    omega
  rw [document?, (suffices_all _).tokens hwhole hfuel, Document.read, hsize]
  rfl

end ComponentAtlas.Markup.Bytewise

import ComponentAtlas.Proofs.Markup.Bytewise.Scanner
import ComponentAtlas.Proofs.Markup.Scanning
import Mathlib.Data.List.TakeWhile

/-!
# Tags and comments byte by byte

Each part of the scanner over bytes finds what its counterpart over characters finds, at every offset
between two characters (`Window.At`). Searches stop at characters of one byte only, so every offset at
which the scanner cuts or goes on is again between two characters.

* `ofScan`: what a scan over characters has found, without the text behind it;
* `attribute?_eq`, `attributesFrom_eq`: attributes; every step takes at least one character;
* `rawText?_eq`: raw text, for elements whose names have one byte for each character;
* `comment?_eq`, `endTag?_eq`, `startTag?_eq`: comments and tags.
-/

namespace ComponentAtlas.Markup.Bytewise

open ComponentAtlas.Text ComponentAtlas.Source ComponentAtlas.Template

/-! ### Characters of one byte -/

variable {w : Window} {start : ℕ} {c : Char} {cs as bs : List Char} {α : Type}

theorem isAscii_of_eq {a : Char} (ha : isAscii a) (h : (c == a) = true) : isAscii c := by
  rw [eq_of_beq h]
  exact ha

theorem isAscii_of_isAsciiBlank (h : isAsciiBlank c) : isAscii c := by
  simp only [isAsciiBlank, Bool.or_eq_true, beq_iff_eq] at h
  rcases h with (((rfl | rfl) | rfl) | rfl) | rfl <;> rfl

theorem isAscii_of_isAlpha (h : c.isAlpha) : isAscii c := by
  have hle : c.val ≤ 'z'.val := by
    change (decide ('A'.val ≤ c.val ∧ c.val ≤ 'Z'.val) || ('a'.val ≤ c.val && c.val ≤ 'z'.val)) = true at h
    simp only [Bool.or_eq_true, Bool.and_eq_true, decide_eq_true_eq] at h
    rcases h with h | h
    · exact UInt32.le_trans h.2 (by decide)
    · exact h.2
  exact decide_eq_true (Nat.lt_of_le_of_lt (UInt32.le_iff_toNat_le.1 hle) (by decide))

theorem isAscii_of_isAlphanum (h : c.isAlphanum) : isAscii c := by
  simp only [Char.isAlphanum, Bool.or_eq_true] at h
  rcases h with h | h
  · exact isAscii_of_isAlpha h
  · have hle : c.val ≤ '9'.val := by
      simp only [Char.isDigit, Bool.and_eq_true, decide_eq_true_eq] at h
      exact h.2
    exact decide_eq_true (Nat.lt_of_le_of_lt (UInt32.le_iff_toNat_le.1 hle) (by decide))

theorem isAscii_of_isNameStart (h : isNameStart c) : isAscii c := by
  simp only [isNameStart, Bool.or_eq_true, beq_iff_eq] at h
  rcases h with (h | rfl) | rfl
  · exact isAscii_of_isAlpha h
  · rfl
  · rfl

theorem isAscii_of_not_isTagNameChar (h : (!isTagNameChar c) = true) : isAscii c := by
  simp only [isTagNameChar, Bool.not_and, Bool.not_not, Bool.or_eq_true, Bool.not_eq_true',
    bne_eq_false_iff_eq] at h
  rcases h with ((h | rfl) | rfl) | rfl
  · exact isAscii_of_isAsciiBlank h
  all_goals rfl

theorem isAscii_of_not_isCaseChar (h : (!isCaseChar c) = true) : isAscii c := by
  simp only [isCaseChar, Bool.not_and, Bool.not_not, Bool.or_eq_true, Bool.not_eq_true',
    bne_eq_false_iff_eq] at h
  rcases h with (h | rfl) | rfl
  · exact isAscii_of_isAsciiBlank h
  all_goals rfl

theorem isAscii_toLower (c : Char) : isAscii c.toLower = isAscii c := by
  change isAscii (if h : 'A'.val ≤ c.val ∧ c.val ≤ 'Z'.val then _ else c) = isAscii c
  split
  · rename_i hc
    have hle : c.toNat ≤ 0x5A := UInt32.le_iff_toNat_le.1 hc.2
    have hsum : (c.toNat + 32) % 4294967296 = c.toNat + 32 := Nat.mod_eq_of_lt (by omega)
    have hlow : c.toNat + 32 < 128 := by omega
    have hhigh : c.toNat < 128 := by omega
    simp [isAscii, hsum, hlow, hhigh]
  · rfl

/-! ### What is found -/

/-- What a scan over characters has found, without the text behind it. -/
def ofScan (s : Scan α) : Found α := ⟨s.value, s.problems, s.offset⟩

@[simp] theorem ofScan_offset (s : Scan α) : (ofScan s).offset = s.offset := rfl

/-- A scan goes on behind what it has taken. -/
theorem at_of_sound {s : Scan α} (hs : s.Sound w.source start cs) (h : w.At start cs) :
    w.At s.offset s.rest := by
  obtain ⟨taken, rfl, hoffset⟩ := hs.reads
  exact hoffset ▸ h.right

theorem find?_eq (h : w.At start cs) (hc : isAscii c) :
    find? w c start =
      match cs.dropWhile (· != c) with
      | [] => none
      | _ :: _ => some (start + byteLength (cs.takeWhile (· != c))) := by
  have hseek := h.seek (p := (· == c)) fun d hd => isAscii_of_eq hc hd
  have hcut := List.takeWhile_append_dropWhile (p := (· != c)) (l := cs)
  have hbne : (fun d => !(d == c)) = (· != c) := rfl
  rw [hbne] at hseek
  rw [find?, hseek, h.stop]
  split
  · rename_i hlt
    split
    · rename_i hdrop
      rw [hdrop, List.append_nil] at hcut
      rw [hcut] at hlt
      omega
    · rfl
  · rename_i hlt
    split
    · rfl
    · rename_i d rest hdrop
      rw [hdrop] at hcut
      have hlen := congrArg byteLength hcut
      have := d.utf8Size_pos
      rw [byteLength_append, byteLength_cons] at hlen
      omega

theorem findLiteral?_eq (h : w.At start cs) (lit : List Char) :
    findLiteral? w lit start = some ((splitAtLiteral lit cs).map fun p => start + byteLength p.1) := by
  rw [findLiteral?]
  split
  · rename_i hle
    have hlen : byteLength cs = 0 := by
      have := h.stop
      omega
    obtain rfl := eq_nil_of_byteLength hlen
    rfl
  · rw [h.slice_stop]
    rfl

theorem name?_eq (h : w.At start cs) :
    name? w start = some (cs.takeWhile isTagNameChar, start + byteLength (cs.takeWhile isTagNameChar)) := by
  have hseek := h.seek_not fun c hc => isAscii_of_not_isTagNameChar hc
  rw [← List.takeWhile_append_dropWhile (p := isTagNameChar) (l := cs)] at h
  simp only [name?, hseek, h.slice?]
  rfl

/-! ### Attributes -/

theorem test_eq (h : w.At start (c :: cs)) {p : Char → Bool} (hp : p c → isAscii c) :
    w.test p start = p c := by
  rw [h.test_cons]
  cases hc : p c <;> simp [hp, hc]

/-- A character of one byte is seen where it stands. -/
theorem test_char (h : w.At start cs) (a : Char) (ha : isAscii a) :
    w.test (· == a) start = (cs.head? == some a) := by
  cases cs with
  | nil => exact h.test_nil _
  | cons c cs => rw [test_eq h fun hc => isAscii_of_eq ha hc]; rfl

theorem test_char_eq_false {a : Char} (h : w.At start cs) (ha : isAscii a) (hnot : ∀ rest, cs ≠ a :: rest) :
    w.test (· == a) start = false := by
  rw [test_char h a ha]
  cases cs with
  | nil => rfl
  | cons d rest =>
    have hd : d ≠ a := fun hd => hnot rest (by rw [hd])
    simpa using hd

theorem attrNameEndsAt_eq (h : w.At start (c :: cs)) : attrNameEndsAt w start = attrNameEnds (c :: cs) := by
  have hfirst : w.test (fun c => isAsciiBlank c || c == '=' || c == '>' || c == '<') start =
      (isAsciiBlank c || c == '=' || c == '>' || c == '<') := by
    apply test_eq h
    intro hc
    simp only [Bool.or_eq_true, beq_iff_eq] at hc
    rcases hc with ((hc | rfl) | rfl) | rfl
    · exact isAscii_of_isAsciiBlank hc
    all_goals rfl
  rw [attrNameEndsAt, hfirst, test_char h '/' rfl]
  by_cases hc : c = '/'
  · subst hc
    rw [test_char (h.next rfl) '>' rfl]
    cases cs with
    | nil => rfl
    | cons d cs =>
      by_cases hd : d = '>'
      · subst hd
        rfl
      · simp [attrNameEnds, hd]
  · simp [attrNameEnds, hc]

theorem splitWhere_attrNameEnds (cs : List Char) : Window.splitWhere attrNameEnds cs = attrName cs := by
  induction cs with
  | nil => rfl
  | cons c cs ih => rw [Window.splitWhere, attrName, ih]

theorem isAscii_of_attrNameEnds (h : attrNameEnds (c :: cs)) : isAscii c := by
  unfold attrNameEnds at h
  split at h
  · rename_i heq
    cases heq
  · rename_i heq
    cases heq
    rfl
  · rename_i heq
    cases heq
    simp only [Bool.or_eq_true, beq_iff_eq] at h
    rcases h with ((hc | rfl) | rfl) | rfl
    · exact isAscii_of_isAsciiBlank hc
    all_goals rfl

theorem attrName?_eq (h : w.At start (c :: cs)) :
    attrName? w start = some ((attrHead (c :: cs)).1, start + byteLength (attrHead (c :: cs)).1) := by
  have hseek : w.seekWhere (attrNameEndsAt w) start = start + byteLength (attrName (c :: cs)).1 := by
    rw [← splitWhere_attrNameEnds]
    refine h.seekWhere attrNameEnds ?_ fun i c cs hi => attrNameEndsAt_eq hi
    intro i hi
    simp only [attrNameEndsAt, Bool.or_eq_true, Bool.and_eq_true] at hi
    rcases hi with hi | hi
    · exact ⟨_, hi⟩
    · exact ⟨_, hi.1⟩
  have hcut := attrHead_append (c :: cs)
  rw [← hcut] at h
  have hslice := h.slice?
  -- A name without characters begins at a mark of one byte, which then is the name.
  have hstop : (if start + byteLength (attrName (c :: cs)).1 = start then start + 1
      else start + byteLength (attrName (c :: cs)).1) = start + byteLength (attrHead (c :: cs)).1 := by
    rw [attrHead]
    split
    · rename_i hstop
      have hnil := eq_nil_of_byteLength (Nat.add_left_cancel (hstop.trans (Nat.add_zero start).symm))
      have hends : attrNameEnds (c :: cs) := by
        rw [attrName] at hnil
        split at hnil
        · assumption
        · cases hnil
      simp [hnil, utf8Size_of_isAscii (isAscii_of_attrNameEnds hends)]
    · rename_i hstop
      have hne : (attrName (c :: cs)).1 ≠ [] := by
        intro hnil
        exact hstop (by rw [hnil]; rfl)
      rw [if_neg (by simpa using hne)]
  simp only [attrName?, hseek, hstop, hslice]
  rfl

theorem quoted?_eq {quote : Char} {at_ : ℕ} {body : List Char} (h : w.At at_ (quote :: body))
    (hquote : quote = '"' ∨ quote = '\'') (name : String) :
    quoted? w start name quote at_ = some (ofScan (attrValue (lines w) start name at_ (quote :: body))) := by
  have hascii : isAscii quote := by rcases hquote with rfl | rfl <;> rfl
  have hbody := h.next hascii
  have hfind := find?_eq hbody hascii
  have hcut := List.takeWhile_append_dropWhile (p := (· != quote)) (l := body)
  rw [attrValue, if_pos (by simpa using hquote), quoted?, hfind]
  cases hdrop : body.dropWhile (· != quote) with
  | cons d rest =>
    rw [← hcut] at hbody
    simp only [hbody.slice?]
    rfl
  | nil =>
    rw [hdrop, List.append_nil] at hcut
    rw [hcut]
    simp only [hbody.slice_stop, ← hbody.stop]
    rfl

theorem attrValue?_eq {at_ : ℕ} (h : w.At at_ cs) (name : String) :
    attrValue? w start name at_ = some (ofScan (attrValue (lines w) start name at_ cs)) := by
  have hseek := h.seek (p := fun c => isAsciiBlank c || c == '>') fun c hc => by
    rcases Bool.or_eq_true_iff.1 hc with hc | hc
    · exact isAscii_of_isAsciiBlank hc
    · exact isAscii_of_eq rfl hc
  have hnot : (fun c => !(isAsciiBlank c || c == '>')) = fun c => !isAsciiBlank c && c != '>' := by
    funext c
    rw [Bool.not_or]
    rfl
  rw [hnot] at hseek
  have hslice : w.slice? at_ (at_ + byteLength (cs.takeWhile fun c => !isAsciiBlank c && c != '>')) =
      some (cs.takeWhile fun c => !isAsciiBlank c && c != '>') := by
    rw [← List.takeWhile_append_dropWhile (p := fun c => !isAsciiBlank c && c != '>') (l := cs)] at h
    exact h.slice?
  rw [attrValue?, test_char h '"' rfl, test_char h '\'' rfl]
  split
  · rename_i hquote
    obtain ⟨body, rfl⟩ := List.head?_eq_some_iff.1 (eq_of_beq hquote)
    exact quoted?_eq h (.inl rfl) name
  · rename_i hdouble
    split
    · rename_i hquote
      obtain ⟨body, rfl⟩ := List.head?_eq_some_iff.1 (eq_of_beq hquote)
      exact quoted?_eq h (.inr rfl) name
    · rename_i hsingle
      simp only [hseek, hslice]
      unfold attrValue
      cases cs with
      | nil => rfl
      | cons c cs =>
        have hquote : (c == '"' || c == '\'') = false := by simp_all
        simp only [hquote]
        rfl

theorem skip_blanks (h : w.At start cs) :
    w.skip isAsciiBlank start = start + byteLength (cs.takeWhile isAsciiBlank) ∧
      w.At (start + byteLength (cs.takeWhile isAsciiBlank)) (cs.dropWhile isAsciiBlank) := by
  refine ⟨h.skip fun _ => isAscii_of_isAsciiBlank, ?_⟩
  rw [← List.takeWhile_append_dropWhile (p := isAsciiBlank) (l := cs)] at h
  exact h.right

theorem attribute?_eq (h : w.At start (c :: cs)) :
    attribute? w start = some (ofScan (Markup.attribute? (lines w) start (c :: cs))) := by
  have hname := attrName?_eq h
  rw [← attrHead_append (c :: cs)] at h
  rw [attribute?, hname, Markup.attribute?]
  generalize attrHead (c :: cs) = pair at *
  obtain ⟨name, afterName⟩ := pair
  obtain ⟨hskip, hat⟩ := skip_blanks h.right
  simp only [Option.bind_eq_bind, Option.bind_some, hskip, test_char hat '=' rfl]
  split
  · rename_i heq
    obtain ⟨afterEq, hcons⟩ := List.head?_eq_some_iff.1 (eq_of_beq heq)
    rw [hcons] at hat ⊢
    obtain ⟨hskip, hinner⟩ := skip_blanks (hat.next rfl)
    rw [hskip, attrValue?_eq hinner]
    rfl
  · rename_i heq
    split
    · rename_i afterEq hcons
      rw [hcons] at heq
      exact absurd rfl heq
    · rfl

theorem attributes_of_nil {lines : Lines} (h : cs.dropWhile isAsciiBlank = []) :
    attributes lines start cs = ⟨([], .missing), [], start + byteLength (cs.takeWhile isAsciiBlank), []⟩ := by
  rw [attributes]
  split
  · rfl
  · rename_i hcons
    rw [h] at hcons
    cases hcons

theorem attributes_of_cons {lines : Lines} (h : cs.dropWhile isAsciiBlank = c :: bs) :
    attributes lines start cs =
      let here := start + byteLength (cs.takeWhile isAsciiBlank)
      if c == '>' then ⟨([], .open), [], here + 1, bs⟩
      else if c == '/' then
        if bs.head? == some '>' then ⟨([], .selfClosing), [], here + 2, bs.tail⟩
        else attributes lines (here + 1) bs
      else if c == '<' then ⟨([], .missing), [], here, c :: bs⟩
      else
        let a := Markup.attribute? lines here (c :: bs)
        let more := attributes lines a.offset a.rest
        ⟨(a.value :: more.value.1, more.value.2), a.problems ++ more.problems, more.offset, more.rest⟩ := by
  rw [attributes]
  split
  · rename_i hnil
    rw [h] at hnil
    cases hnil
  · rename_i hcons
    rw [h] at hcons
    cases hcons
    rfl

/-- The attributes of a start tag take at most one step for each character. -/
theorem attributesFrom_eq {fuel : ℕ} (h : w.At start cs) (hfuel : cs.length < fuel) :
    attributesFrom w fuel start = some (ofScan (attributes (lines w) start cs)) := by
  -- Every round takes at least one character, so the steps outlast the text.
  induction fuel generalizing start cs with
  | zero => omega
  | succ fuel ih =>
    have hlength := dropWhile_length isAsciiBlank cs
    obtain ⟨hskip, hhere⟩ := skip_blanks h
    rw [attributesFrom, hskip]
    cases hdrop : cs.dropWhile isAsciiBlank with
    | nil =>
      rw [hdrop] at hhere
      rw [attributes_of_nil hdrop]
      simp [hhere.test_nil, hhere.stop, ofScan]
    | cons c rest =>
      rw [hdrop] at hhere hlength
      rw [List.length_cons] at hlength
      rw [attributes_of_cons hdrop]
      have hbefore : ¬ w.stop ≤ start + byteLength (cs.takeWhile isAsciiBlank) := by
        have hstop := hhere.stop
        have hpos := c.utf8Size_pos
        rw [byteLength_cons] at hstop
        omega
      generalize start + byteLength (cs.takeWhile isAsciiBlank) = here at *
      have htest : ∀ a, isAscii a → w.test (· == a) here = (c == a) := fun a ha =>
        test_eq hhere fun hc => isAscii_of_eq ha hc
      simp only [htest '>' rfl, htest '/' rfl, htest '<' rfl, decide_eq_false hbefore, Bool.false_or]
      split
      · rfl
      · split
        · rename_i hslash
          obtain rfl := eq_of_beq hslash
          have hnext := hhere.next rfl
          rw [test_char hnext '>' rfl]
          split
          · rfl
          · exact ih hnext (by omega)
        · split
          · rfl
          · have ha := attribute?_eq hhere
            have hread : (Markup.attribute? (lines w) here (c :: rest)).Sound w.source here (c :: rest) :=
              (attribute?_read hhere.stands).sound
            have hshorter := attribute?_length (lines w) here c rest
            have hmore := ih (at_of_sound hread hhere) (by simp only [List.length_cons] at hshorter; omega)
            simp only [ha, Option.bind_eq_bind, Option.bind_some, ofScan]
            rw [hmore]
            rfl

/-! ### Raw text -/

theorem matchesAt_eq {name : List Char} (h : w.At start cs) (hname : ∀ c ∈ name, isAscii c) :
    matchesAt w name start = ((cs.take name.length).map Char.toLower == name.map Char.toLower) := by
  induction name generalizing start cs with
  | nil => simp [matchesAt]
  | cons a name ih =>
    have ha : isAscii a := hname a List.mem_cons_self
    cases cs with
    | nil => simp [matchesAt, h.test_nil]
    | cons c cs =>
      have hc : (c.toLower == a.toLower) = true → isAscii c := by
        intro hc
        rw [← isAscii_toLower, eq_of_beq hc, isAscii_toLower]
        exact ha
      have htest : w.test (fun d => d.toLower == a.toLower) start = (c.toLower == a.toLower) := test_eq h hc
      rw [matchesAt, htest]
      cases hca : c.toLower == a.toLower with
      | true =>
        rw [ih (h.next (hc hca)) fun d hd => hname d (List.mem_cons_of_mem _ hd)]
        simp [hca]
      | false => simp [hca]

theorem splitWhere_atEndTag (name cs : List Char) :
    Window.splitWhere (atEndTag name) cs = rawContent name cs := by
  induction cs with
  | nil => rfl
  | cons c cs ih => rw [Window.splitWhere, rawContent, ih]

theorem atEndTag_eq {name : List Char} (h : w.At start cs) (hname : ∀ c ∈ name, isAscii c) :
    (w.startsWith ['<', '/'] start && matchesAt w name (start + 2)) = atEndTag name cs := by
  unfold atEndTag
  split
  · rename_i rest
    have hbody : w.At (start + 1 + 1) rest := (h.next rfl).next rfl
    rw [h.startsWith (by decide), matchesAt_eq hbody hname]
    rfl
  · rename_i hnot
    rw [h.startsWith_eq_false (by decide) hnot]
    rfl

/-- The offset behind the next bracket. -/
theorem throughBracket_eq (h : w.At start cs) :
    ((find? w '>' start).map (· + 1)).getD w.stop = start + byteLength (throughBracket cs).1 := by
  have hcut := List.takeWhile_append_dropWhile (p := (· != '>')) (l := cs)
  rw [find?_eq h rfl, throughBracket]
  cases hdrop : cs.dropWhile (· != '>') with
  | nil => simp [h.stop]
  | cons d rest =>
    obtain rfl := eq_of_dropWhile_ne hdrop
    simp [utf8Size_of_isAscii (c := '>') rfl, Nat.add_assoc]

theorem rawText?_eq {name : List Char} (h : w.At start cs) (hname : ∀ c ∈ name, isAscii c)
    (kind : Tag.Content) :
    rawText? w kind name start = some (ofScan (rawText (lines w) kind name start cs)) := by
  have hseek : w.seekWhere (fun i => w.startsWith ['<', '/'] i && matchesAt w name (i + 2)) start =
      start + byteLength (rawContent name cs).1 := by
    rw [← splitWhere_atEndTag]
    refine h.seekWhere (atEndTag name) ?_ fun i c cs hi => atEndTag_eq hi hname
    intro i hi
    simp only [Window.startsWith, Bool.and_eq_true] at hi
    exact ⟨_, hi.1.1⟩
  have hcut := rawContent_append name cs
  rw [rawText?, hseek, rawText]
  generalize rawContent name cs = pair at *
  obtain ⟨content, fromEnd⟩ := pair
  dsimp only at hcut ⊢
  rw [← hcut] at h
  have hend := h.right
  have hstop := hend.stop
  simp only [h.slice?, Option.bind_eq_bind, Option.bind_some]
  cases fromEnd with
  | nil =>
    rw [if_neg (by simp [hstop])]
    rfl
  | cons d rest =>
    have hpos := d.utf8Size_pos
    rw [byteLength_cons] at hstop
    rw [if_pos (by omega), throughBracket_eq hend]
    rfl

/-! ### Simple tokens -/

theorem comment?_eq {body : List Char} (h : w.At start ('<' :: '!' :: '-' :: '-' :: body)) :
    comment? w start = some (ofScan (commentToken (lines w) start body)) := by
  have hbody : w.At (start + 4) body := (((h.next rfl).next rfl).next rfl).next rfl
  rw [comment?, findLiteral?_eq hbody, commentToken]
  cases hsplit : splitAtLiteral ['-', '-', '>'] body with
  | none =>
    have hmin : min (start + 4) w.stop = start + 4 := by
      have := hbody.stop
      omega
    simp only [Option.bind_eq_bind, Option.bind_some, Option.map_none, hmin, hbody.slice_stop, ← hbody.stop]
    rfl
  | some parts =>
    obtain ⟨value, rest⟩ := parts
    rw [splitAtLiteral_append hsplit, List.append_assoc] at hbody
    have hmin : min (start + 4) (start + 4 + byteLength value) = start + 4 := by omega
    simp only [Option.bind_eq_bind, Option.bind_some, Option.map_some, hmin, hbody.slice?]
    rfl

/-- A search may begin behind characters that it does not stop at. -/
theorem find?_right (h : w.At start (as ++ bs)) (hc : isAscii c) (has : ∀ a ∈ as, a != c) :
    find? w c (start + byteLength as) = find? w c start := by
  rw [find?_eq h.right hc, find?_eq h hc, List.dropWhile_append_of_pos has, List.takeWhile_append_of_pos has,
    byteLength_append, Nat.add_assoc]

theorem endTag?_eq {body : List Char} (h : w.At start ('<' :: '/' :: body)) :
    endTag? w start = some (ofScan (endTagToken (lines w) start body)) := by
  have hbody : w.At (start + 2) body := (h.next rfl).next rfl
  have hname : ∀ a ∈ body.takeWhile isTagNameChar, a != '>' := by
    intro a ha
    have := List.mem_takeWhile_imp ha
    simp only [isTagNameChar, Bool.and_eq_true] at this
    exact this.1.1.2
  have hblanks : ∀ a ∈ (body.dropWhile isTagNameChar).takeWhile isAsciiBlank, a != '>' := by
    intro a ha
    have := List.mem_takeWhile_imp ha
    by_contra hgt
    simp only [bne_iff_ne, ne_eq, not_not] at hgt
    rw [hgt] at this
    cases this
  have hcut : w.At (start + 2) (body.takeWhile isTagNameChar ++ body.dropWhile isTagNameChar) := by
    rwa [List.takeWhile_append_dropWhile]
  have hafter := hcut.right
  obtain ⟨hskip, -⟩ := skip_blanks hafter
  rw [← List.takeWhile_append_dropWhile (p := isAsciiBlank) (l := body.dropWhile isTagNameChar)] at hafter
  -- The search begins behind the name and the blanks, where no bracket has been missed.
  have hfind : find? w '>' (w.skip isAsciiBlank (start + 2 + byteLength (body.takeWhile isTagNameChar))) =
      find? w '>' (start + 2) := by
    rw [hskip, find?_right hafter rfl hblanks, find?_right hcut rfl hname]
  rw [endTag?, name?_eq hbody]
  simp only [Option.bind_eq_bind, Option.bind_some]
  rw [hfind, find?_eq hbody rfl, endTagToken, throughBracket]
  cases hdrop : body.dropWhile (· != '>') with
  | nil =>
    have hbracket := List.dropWhile_eq_nil_iff.1 hdrop
    have hlast : (body.getLast? == some '>') = false := by
      by_contra hlast
      simp only [Bool.not_eq_false, beq_iff_eq] at hlast
      exact absurd (hbracket '>' (List.mem_of_getLast? hlast)) (by decide)
    simp only [hlast, hbody.stop]
    rfl
  | cons d rest =>
    obtain rfl := eq_of_dropWhile_ne hdrop
    simp [ofScan, utf8Size_of_isAscii (c := '>') rfl, Nat.add_assoc]

/-- Elements with raw text have names of one byte for each character. -/
theorem isAscii_of_content {name : String} (h : Tag.content name ≠ .parsed) :
    ∀ c ∈ name.toList, isAscii c := by
  have hlower : ∀ c ∈ (asciiLower name).toList, isAscii c := by
    unfold Tag.content at h
    dsimp only at h
    split at h
    · rename_i hname
      simp only [Bool.or_eq_true, beq_iff_eq] at hname
      rcases hname with hname | hname <;> rw [hname] <;> exact List.all_eq_true.1 (by decide)
    · split at h
      · rename_i hname
        simp only [Bool.or_eq_true, beq_iff_eq] at hname
        rcases hname with hname | hname <;> rw [hname] <;> exact List.all_eq_true.1 (by decide)
      · exact absurd rfl h
  intro c hc
  rw [← isAscii_toLower]
  apply hlower
  rw [asciiLower, String.toList_ofList]
  exact List.mem_map_of_mem hc

theorem length_lt_of_at (h : w.At start cs) : cs.length < w.stop - start + 1 := by
  have := length_le_byteLength cs
  rw [h.stop]
  omega

theorem startTag?_eq {body : List Char} (h : w.At start ('<' :: body)) :
    startTag? w start = some (ofScan (startTagToken (lines w) start body)) := by
  have hbody : w.At (start + 1) body := h.next rfl
  have hcut : w.At (start + 1) (body.takeWhile isTagNameChar ++ body.dropWhile isTagNameChar) := by
    rwa [List.takeWhile_append_dropWhile]
  have hattrs := attributesFrom_eq hcut.right (length_lt_of_at hcut.right)
  have hread : (attributes (lines w) (start + 1 + byteLength (body.takeWhile isTagNameChar))
      (body.dropWhile isTagNameChar)).Sound w.source _ _ := (attributes_read hcut.right.stands).sound
  have hrest := at_of_sound hread hcut.right
  rw [startTag?, name?_eq hbody, startTagToken]
  generalize attributes (lines w) (start + 1 + byteLength (body.takeWhile isTagNameChar))
    (body.dropWhile isTagNameChar) = scan at *
  rw [ofScan] at hattrs
  simp only [Option.bind_eq_bind, Option.bind_some, hattrs]
  generalize String.ofList (body.takeWhile isTagNameChar) = name
  split
  · rfl
  · rename_i hkind
    -- The end tag is compared byte by byte with a name that is known to be ASCII.
    have hcontent : Tag.content (Tag.localName name) ≠ .parsed := by
      intro hparsed
      simp [hparsed] at hkind
    rw [rawText?_eq hrest (isAscii_of_content hcontent)]
    rfl

end ComponentAtlas.Markup.Bytewise

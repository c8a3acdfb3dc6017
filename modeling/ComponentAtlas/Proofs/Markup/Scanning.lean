import ComponentAtlas.Proofs.Markup.Places
import ComponentAtlas.Proofs.Text.Cutting

/-!
# The tokens of a source lie one behind the other

Every scanner takes characters from the start of a text and counts their bytes. So a text that stands
in the source at the offset it is read with leaves a text that stands at the offset behind it.

* `Scan.Sound`: a scan has taken what it says, and its problems point into the source;
* `attributes_read`, `simpleLexeme_read`, `expansionLexeme_read`: what each scanner has found lies
  between the offsets where it began and where it ended;
* `tokens_of_simple`, `tokens_of_expansion`: the tokens of a text by its first token;
* `TokensPlaced`: tokens from one offset to another; `tokens_placed`: those of a text fill it.
-/

namespace ComponentAtlas.Markup

open ComponentAtlas.Text ComponentAtlas.Source

variable {α : Type} {source cs as bs : List Char} {c : Char} {start offset lo mid hi : ℕ}

/-! ### Scans -/

/-- A scan that has read a part of a text from `start` up to its offset, with problems that point into
the source. -/
structure Scan.Sound (source : List Char) (start : ℕ) (cs : List Char) (s : Scan α) : Prop where
  reads : ∃ taken, cs = taken ++ s.rest ∧ s.offset = start + byteLength taken
  problems : ∀ p ∈ s.problems, p.span.Proper source

theorem Scan.Sound.covers {s : Scan α} (h : s.Sound source start cs) (hcs : Stands source start cs) :
    ((Lines.ofText source).span start s.offset).Covers source start s.offset := by
  obtain ⟨taken, rfl, hoffset⟩ := h.reads
  exact hcs.left.covers hoffset

theorem Scan.Sound.rest {s : Scan α} (h : s.Sound source start cs) (hcs : Stands source start cs) :
    Stands source s.offset s.rest := by
  obtain ⟨taken, rfl, hoffset⟩ := h.reads
  exact hoffset ▸ hcs.right

theorem Scan.Sound.prepend {s : Scan α} (h : s.Sound source (start + byteLength as) cs) :
    s.Sound source start (as ++ cs) := by
  obtain ⟨taken, hcs, hoffset⟩ := h.reads
  exact ⟨⟨as ++ taken, by simp [hcs], by simp [hoffset, Nat.add_assoc]⟩, h.problems⟩

/-- A scan that goes on where another one has ended. -/
theorem Scan.Sound.reads_trans {β : Type} {s : Scan α} {t : Scan β} (hs : s.Sound source start cs)
    (ht : t.Sound source s.offset s.rest) :
    ∃ taken, cs = taken ++ t.rest ∧ t.offset = start + byteLength taken := by
  obtain ⟨taken, hread, hoffset⟩ := hs.reads
  obtain ⟨taken', hread', hoffset'⟩ := ht.reads
  refine ⟨taken ++ taken', ?_, ?_⟩
  · rw [hread, hread', List.append_assoc]
  · rw [hoffset', hoffset, byteLength_append, Nat.add_assoc]

theorem attrName_append (cs : List Char) : (attrName cs).1 ++ (attrName cs).2 = cs := by
  induction cs with
  | nil => rfl
  | cons c cs ih =>
    rw [attrName]
    split
    · rfl
    · exact congrArg (c :: ·) ih

/-- The character at which a scan for `q` stops. -/
theorem eq_of_dropWhile_ne {q d : Char} {rest : List Char} (h : cs.dropWhile (· != q) = d :: rest) :
    d = q := by
  have := List.head?_dropWhile_not (· != q) cs
  simpa [h] using this

/-- What a scan for an attribute has found: an attribute that extends from the start to the offset of
the scan. -/
structure AttributeRead (source : List Char) (start : ℕ) (cs : List Char) (s : Scan Attribute) : Prop where
  sound : s.Sound source start cs
  span : s.value.span = (Lines.ofText source).span start s.offset
  placed : s.value.Placed source

/-- An attribute whose value lies between an opening and a closing part. -/
theorem attributeRead_of_parts {opening raw closing rest : List Char} {x y stop : ℕ}
    {name value : String} {problems : List Problem}
    (h : Stands source start (opening ++ raw ++ closing ++ rest)) (hx : x = start + byteLength opening)
    (hy : y = x + byteLength raw) (hstop : stop = y + byteLength closing)
    (hproblems : ∀ p ∈ problems, p.span = (Lines.ofText source).span start stop) :
    AttributeRead source start (opening ++ raw ++ closing ++ rest)
      ⟨⟨name, value, (Lines.ofText source).span start stop, some ((Lines.ofText source).span x y)⟩,
        problems, stop, rest⟩ := by
  have hspan : ((Lines.ofText source).span start stop).Covers source start stop :=
    h.left.covers (by simp [hx, hy, hstop, Nat.add_assoc])
  have hvalue : ((Lines.ofText source).span x y).Covers source x y := hx ▸ h.left.left.right.covers (hx ▸ hy)
  refine ⟨⟨⟨_, rfl, by simp [hx, hy, hstop, Nat.add_assoc]⟩, fun p hp => ?_⟩, rfl, hspan.proper, ?_⟩
  · rw [hproblems p hp]
    exact hspan.proper
  · rintro v ⟨⟩
    refine ⟨hvalue.proper, ?_, ?_⟩
    · rw [hvalue.start, hspan.start, hx]
      exact Nat.le_add_right _ _
    · rw [hvalue.stop, hspan.stop, hstop]
      exact Nat.le_add_right _ _

theorem attrHead_append (cs : List Char) : (attrHead cs).1 ++ (attrHead cs).2 = cs := by
  rw [attrHead]
  split
  · exact List.take_append_drop 1 cs
  · exact attrName_append cs

theorem unquoted_read {opening inner : List Char} {at_ : ℕ}
    (h : Stands source start (opening ++ inner)) (hat : at_ = start + byteLength opening) (name : String)
    (p : Char → Bool) :
    AttributeRead source start (opening ++ inner)
      { value := ⟨name, Entity.decode (inner.takeWhile p),
          (Lines.ofText source).span start (at_ + byteLength (inner.takeWhile p)),
          some ((Lines.ofText source).span at_ (at_ + byteLength (inner.takeWhile p)))⟩
        problems := [], offset := at_ + byteLength (inner.takeWhile p), rest := inner.dropWhile p } := by
  have hcut : opening ++ inner = opening ++ inner.takeWhile p ++ [] ++ inner.dropWhile p := by
    rw [List.append_nil, List.append_assoc, List.takeWhile_append_dropWhile]
  rw [hcut] at h ⊢
  exact attributeRead_of_parts h hat rfl rfl fun p hp => nomatch hp

/-- The value of an attribute behind its name and `=`. -/
theorem attrValue_read {opening inner : List Char} {at_ : ℕ} {name : String}
    (h : Stands source start (opening ++ inner)) (hat : at_ = start + byteLength opening) :
    AttributeRead source start (opening ++ inner)
      (attrValue (Lines.ofText source) start name at_ inner) := by
  have hunquoted := unquoted_read h hat name fun c => !isAsciiBlank c && c != '>'
  unfold attrValue
  dsimp only
  split
  · rename_i q body
    split
    · rename_i hq
      have hsize : q.utf8Size = 1 := by
        rcases Bool.or_eq_true _ _ ▸ hq with hq | hq <;> rw [eq_of_beq hq] <;> rfl
      have hbody := List.takeWhile_append_dropWhile (p := (· != q)) (l := body)
      generalize body.takeWhile (· != q) = raw at *
      split
      · rename_i d rest hrest
        obtain rfl := eq_of_dropWhile_ne hrest
        rw [hrest] at hbody
        subst hbody
        have hcut : opening ++ d :: (raw ++ d :: rest) = opening ++ [d] ++ raw ++ [d] ++ rest := by simp
        rw [hcut] at h ⊢
        exact attributeRead_of_parts h (by simp [hat, hsize, Nat.add_assoc]) rfl (by simp [hsize])
          fun p hp => nomatch hp
      · rename_i hrest
        rw [hrest, List.append_nil] at hbody
        subst hbody
        have hcut : opening ++ q :: raw = opening ++ [q] ++ raw ++ [] ++ [] := by simp
        rw [hcut] at h ⊢
        exact attributeRead_of_parts h (by simp [hat, hsize, Nat.add_assoc]) rfl rfl (by simp)
    · exact hunquoted
  · exact hunquoted

/-- An attribute is read from its first character on, with its value inside it. -/
theorem attribute?_read (h : Stands source start cs) :
    AttributeRead source start cs (attribute? (Lines.ofText source) start cs) := by
  have hsplit := attrHead_append cs
  unfold attribute?
  rcases hhead : attrHead cs with ⟨name, afterName⟩
  rw [hhead] at hsplit
  dsimp only at hsplit ⊢
  subst hsplit
  split
  · rename_i afterEq heq
    -- the text is cut at both gaps around the sign
    have hgaps : afterName = afterName.takeWhile isAsciiBlank ++
        '=' :: (afterEq.takeWhile isAsciiBlank ++ afterEq.dropWhile isAsciiBlank) := by
      rw [List.takeWhile_append_dropWhile, ← heq, List.takeWhile_append_dropWhile]
    have hcut : name ++ afterName = name ++ afterName.takeWhile isAsciiBlank ++ ['='] ++
        afterEq.takeWhile isAsciiBlank ++ afterEq.dropWhile isAsciiBlank := by
      conv_lhs => rw [hgaps]
      simp
    rw [hcut] at h ⊢
    exact attrValue_read h (by simp [Nat.add_assoc]; rfl)
  · refine ⟨⟨⟨name, rfl, rfl⟩, fun p hp => nomatch hp⟩, rfl, ?_, fun v hv => nomatch hv⟩
    exact (h.left.covers rfl).proper

/-- What a scan for the attributes of a start tag has found: attributes in order between the offset
where it began and the one where it ended. -/
structure AttributesRead (source : List Char) (start : ℕ) (cs : List Char)
    (s : Scan (List Attribute × TagEnd)) : Prop where
  sound : s.Sound source start cs
  order : InOrder start (s.value.1.map (·.span)) s.offset
  placed : ∀ a ∈ s.value.1, a.Placed source

theorem AttributesRead.prepend {s : Scan (List Attribute × TagEnd)}
    (h : AttributesRead source (start + byteLength as) cs s) : AttributesRead source start (as ++ cs) s :=
  ⟨h.sound.prepend, h.order.weaken_left (Nat.le_add_right _ _), h.placed⟩

/-- A start tag that ends after some characters without further attributes. -/
theorem attributesRead_end {rest : List Char} {stop : ℕ} {e : TagEnd} (hstop : stop = start + byteLength as) :
    AttributesRead source start (as ++ rest) ⟨([], e), [], stop, rest⟩ :=
  ⟨⟨⟨as, rfl, hstop⟩, fun _ hp => nomatch hp⟩, hstop ▸ Nat.le_add_right _ _, fun _ ha => nomatch ha⟩

/-- One more attribute before others. -/
theorem AttributeRead.cons {a : Scan Attribute} {more : Scan (List Attribute × TagEnd)}
    (ha : AttributeRead source start cs a) (h : Stands source start cs)
    (hmore : AttributesRead source a.offset a.rest more) :
    AttributesRead source start cs ⟨(a.value :: more.value.1, more.value.2), a.problems ++ more.problems,
      more.offset, more.rest⟩ := by
  have hcovers := ha.span ▸ ha.sound.covers h
  have hreads := ha.sound.reads_trans hmore.sound
  refine ⟨⟨hreads, ?_⟩, ⟨?_, hcovers.proper.le, ?_⟩, ?_⟩
  · intro p hp
    exact (List.mem_append.1 hp).elim (ha.sound.problems p) (hmore.sound.problems p)
  · exact Nat.le_of_eq hcovers.start.symm
  · rw [hcovers.stop]
    exact hmore.order
  · intro b hb
    rcases List.mem_cons.1 hb with rfl | hb
    · exact ha.placed
    · exact hmore.placed b hb

theorem attributes_read (h : Stands source start cs) :
    AttributesRead source start cs (attributes (Lines.ofText source) start cs) := by
  induction hn : cs.length using Nat.strongRecOn generalizing start cs with
  | _ n ih =>
    subst hn
    have hblank := List.takeWhile_append_dropWhile (p := isAsciiBlank) (l := cs)
    rw [attributes]
    split
    · rename_i hrest
      rw [hrest] at hblank
      rw [← hblank]
      exact attributesRead_end (by rw [hblank])
    · rename_i c rest hrest
      rw [hrest] at hblank
      generalize cs.takeWhile isAsciiBlank = blanks at *
      subst hblank
      have hhere := h.right
      dsimp only
      split
      · rename_i hc
        obtain rfl := eq_of_beq hc
        rw [← List.singleton_append, ← List.append_assoc]
        exact attributesRead_end (by simp [Nat.add_assoc]; rfl)
      · split
        · rename_i hc
          obtain rfl := eq_of_beq hc
          split
          · rename_i hhead
            obtain ⟨tail, rfl⟩ := List.head?_eq_some_iff.1 (eq_of_beq hhead)
            have hcut : blanks ++ '/' :: '>' :: tail = blanks ++ ['/', '>'] ++ tail := by simp
            rw [hcut]
            exact attributesRead_end (by simp [Nat.add_assoc]; rfl)
          · have hcut : blanks ++ '/' :: rest = blanks ++ ['/'] ++ rest := by simp
            have hsize : start + byteLength blanks + 1 = start + byteLength (blanks ++ ['/']) := by
              simp [Nat.add_assoc]; rfl
            rw [hcut] at h ⊢
            rw [hsize]
            exact (ih rest.length (by simp; omega) h.right rfl).prepend
        · split
          · exact attributesRead_end rfl
          · have ha := attribute?_read hhere
            have hlt := attribute?_length (Lines.ofText source) (start + byteLength blanks) c rest
            refine AttributesRead.prepend (ha.cons hhere (ih _ ?_ (ha.sound.rest hhere) rfl))
            simp only [List.length_append, List.length_cons] at hlt ⊢
            omega

/-! ### Cutting texts -/

theorem splitAtLiteral_append {lit before behind : List Char}
    (h : splitAtLiteral lit cs = some (before, behind)) : cs = before ++ lit ++ behind := by
  induction cs generalizing before behind with
  | nil => cases h
  | cons c cs ih =>
    rw [splitAtLiteral] at h
    split at h
    · rename_i rest hrest
      cases h
      exact eq_append_of_dropLiteral? hrest
    · obtain ⟨⟨before', behind'⟩, hsplit, hpair⟩ := Option.map_eq_some_iff.1 h
      cases hpair
      simp [ih hsplit]

theorem untilBrace_append {depth : ℕ} {before behind : List Char}
    (h : untilBrace depth cs = some (before, behind)) : cs = before ++ '\x7d' :: behind := by
  induction cs generalizing depth before behind with
  | nil => cases h
  | cons c cs ih =>
    rw [untilBrace] at h
    split at h
    · rename_i hc
      cases h
      simp only [Bool.and_eq_true, beq_iff_eq] at hc
      rw [hc.1, List.nil_append]
    · obtain ⟨⟨before', behind'⟩, hsplit, hpair⟩ := Option.map_eq_some_iff.1 h
      cases hpair
      simp [ih hsplit]

theorem rawContent_append (name cs : List Char) : (rawContent name cs).1 ++ (rawContent name cs).2 = cs := by
  induction cs with
  | nil => rfl
  | cons c cs ih =>
    rw [rawContent]
    split
    · rfl
    · exact congrArg (c :: ·) ih

theorem throughBracket_append (cs : List Char) : (throughBracket cs).1 ++ (throughBracket cs).2 = cs := by
  have hcs := List.takeWhile_append_dropWhile (p := (· != '>')) (l := cs)
  rw [throughBracket]
  split
  · rename_i c rest hrest
    rw [hrest] at hcs
    simpa using hcs
  · exact List.append_nil cs

theorem afterInterpolation_suffix (cs : List Char) : afterInterpolation cs <:+ cs := by
  rw [afterInterpolation]
  split
  · rename_i before behind hsplit
    exact ⟨_, (splitAtLiteral_append hsplit).symm⟩
  · exact List.nil_suffix

theorem textEnd_suffix (cs : List Char) : textEnd cs <:+ cs := by
  fun_induction textEnd cs with
  | case1 => exact List.suffix_refl []
  | case2 rest ih =>
    exact (ih.trans (afterInterpolation_suffix rest)).trans
      ((List.suffix_cons _ _).trans (List.suffix_cons _ _))
  | case3 c rest => exact List.suffix_refl _
  | case4 c rest _ _ ih => exact ih.trans (List.suffix_cons _ _)

theorem afterText_suffix (cs : List Char) : afterText cs <:+ cs := by
  unfold afterText
  split
  · exact List.suffix_refl []
  · rename_i rest
    exact ((textEnd_suffix _).trans (afterInterpolation_suffix rest)).trans
      ((List.suffix_cons _ _).trans (List.suffix_cons _ _))
  · exact (textEnd_suffix _).trans (List.suffix_cons _ _)

theorem decodeChars_ne_nil (fuel : ℕ) (h : cs ≠ []) : Entity.decodeChars fuel cs ≠ [] := by
  cases fuel with
  | zero => exact h
  | succ fuel =>
    cases cs with
    | nil => exact absurd rfl h
    | cons c cs =>
      rw [Entity.decodeChars]
      split
      · split <;> simp
      · simp

theorem decode_ne_empty (h : cs ≠ []) : Entity.decode cs ≠ "" := by
  intro hempty
  have hchars := decodeChars_ne_nil cs.length h
  rw [Entity.decode] at hempty
  simp [hchars] at hempty

/-! ### Simple tokens -/

/-- A raw text between two offsets, with its end tag if there is one. -/
structure Raw.Placed (source : List Char) (lo hi : ℕ) (r : Raw) : Prop where
  proper : r.span.Proper source
  start : r.span.start.offset = lo
  stop : match r.endSpan with
    | none => r.span.stop.offset = hi
    | some e => e.Covers source r.span.stop.offset hi

/-- A start tag that contains its attributes; with the raw text of its element it extends from one
offset to another. -/
structure StartTag.Placed (source : List Char) (lo hi : ℕ) (t : StartTag) : Prop where
  proper : t.span.Proper source
  start : t.span.start.offset = lo
  order : InOrder lo (t.attrs.map (·.span)) t.span.stop.offset
  attrs : ∀ a ∈ t.attrs, a.Placed source
  stop : match t.raw with
    | none => t.span.stop.offset = hi
    | some raw => raw.Placed source t.span.stop.offset hi

/-- A simple token between two offsets. -/
def Simple.Placed (source : List Char) (lo hi : ℕ) : Simple → Prop
  | .comment _ span => span.Covers source lo hi
  | .text value span => span.Covers source lo hi ∧ value ≠ ""
  | .startTag tag => tag.Placed source lo hi
  | .endTag _ span => span.Covers source lo hi

/-- What a scan for a simple token has found. -/
structure SimpleRead (source : List Char) (start : ℕ) (cs : List Char) (s : Scan Simple) : Prop where
  sound : s.Sound source start cs
  placed : s.value.Placed source start s.offset

/-- A simple token that takes some characters. -/
theorem simpleRead_of_append {rest : List Char} {stop : ℕ} {problems : List Problem} {t : Simple}
    (h : Stands source start (as ++ rest)) (hstop : stop = start + byteLength as)
    (hproblems : ∀ p ∈ problems, p.span = (Lines.ofText source).span start stop)
    (hplaced : ((Lines.ofText source).span start stop).Covers source start stop →
      t.Placed source start stop) :
    SimpleRead source start (as ++ rest) ⟨t, problems, stop, rest⟩ := by
  have hcovers := h.left.covers hstop
  refine ⟨⟨⟨as, rfl, hstop⟩, fun p hp => ?_⟩, hplaced hcovers⟩
  rw [hproblems p hp]
  exact hcovers.proper

theorem commentToken_read {body : List Char} (h : Stands source start ('<' :: '!' :: '-' :: '-' :: body)) :
    SimpleRead source start ('<' :: '!' :: '-' :: '-' :: body)
      (commentToken (Lines.ofText source) start body) := by
  have hopen : byteLength ['<', '!', '-', '-'] = 4 := rfl
  have hclose : byteLength ['-', '-', '>'] = 3 := rfl
  unfold commentToken
  split
  · rename_i value rest hsplit
    have hcut : '<' :: '!' :: '-' :: '-' :: body =
        ['<', '!', '-', '-'] ++ value ++ ['-', '-', '>'] ++ rest := by
      simp [splitAtLiteral_append hsplit]
    rw [hcut] at h ⊢
    refine simpleRead_of_append h ?_ (fun _ hp => nomatch hp) id
    simp only [byteLength_append]
    omega
  · have hcut : '<' :: '!' :: '-' :: '-' :: body = ['<', '!', '-', '-'] ++ body ++ [] := by simp
    rw [hcut] at h ⊢
    refine simpleRead_of_append h ?_ (by simp) id
    simp only [byteLength_append]
    omega

theorem endTagToken_read {body : List Char} (h : Stands source start ('<' :: '/' :: body)) :
    SimpleRead source start ('<' :: '/' :: body) (endTagToken (Lines.ofText source) start body) := by
  have hopen : byteLength ['<', '/'] = 2 := rfl
  have hsplit := throughBracket_append body
  rw [endTagToken]
  generalize body.takeWhile isTagNameChar = name
  generalize throughBracket body = pair at *
  obtain ⟨tag, rest⟩ := pair
  dsimp only at hsplit ⊢
  subst hsplit
  have hcut : '<' :: '/' :: (tag ++ rest) = ['<', '/'] ++ tag ++ rest := by simp
  rw [hcut] at h ⊢
  refine simpleRead_of_append h ?_ ?_ id
  · simp only [byteLength_append]
    omega
  · intro p hp
    split at hp
    · cases hp
    · rw [List.mem_singleton.1 hp]

theorem textToken_read (h : Stands source start (c :: cs)) :
    SimpleRead source start (c :: cs) (textToken (Lines.ofText source) start (c :: cs)) := by
  have hlt := afterText_length c cs
  have hsuffix := afterText_suffix (c :: cs)
  rw [textToken]
  generalize c :: cs = text at *
  generalize afterText text = rest at *
  obtain ⟨raw, rfl⟩ := hsuffix
  have htake : (raw ++ rest).take ((raw ++ rest).length - rest.length) = raw := by simp
  have hne : raw ≠ [] := by
    rintro rfl
    exact Nat.lt_irrefl _ hlt
  rw [htake]
  exact simpleRead_of_append h rfl (fun _ hp => nomatch hp) fun hcovers => ⟨hcovers, decode_ne_empty hne⟩

/-- What a scan for raw text has found. -/
structure RawRead (source : List Char) (start : ℕ) (cs : List Char) (s : Scan Raw) : Prop where
  sound : s.Sound source start cs
  placed : s.value.Placed source start s.offset

theorem rawText_read (kind : Tag.Content) (name : List Char) (h : Stands source start cs) :
    RawRead source start cs (rawText (Lines.ofText source) kind name start cs) := by
  have hsplit := rawContent_append name cs
  rw [rawText]
  generalize rawContent name cs = pair at *
  obtain ⟨content, fromEnd⟩ := pair
  dsimp only at hsplit ⊢
  subst hsplit
  have hcontent := h.left.covers rfl
  split
  · exact ⟨⟨⟨content, rfl, rfl⟩, List.forall_mem_nil _⟩, hcontent.proper, rfl, rfl⟩
  · rename_i d tail
    have htag := throughBracket_append (d :: tail)
    generalize throughBracket (d :: tail) = pair at *
    obtain ⟨tag, rest⟩ := pair
    dsimp only at htag ⊢
    rw [← htag] at h ⊢
    exact ⟨⟨⟨content ++ tag, by simp, by simp [Nat.add_assoc]⟩, List.forall_mem_nil _⟩,
      hcontent.proper, rfl, h.right.left.covers rfl⟩

theorem startTagToken_read {body : List Char} (h : Stands source start ('<' :: body)) :
    SimpleRead source start ('<' :: body) (startTagToken (Lines.ofText source) start body) := by
  have hopen : byteLength ['<'] = 1 := rfl
  have hname := List.takeWhile_append_dropWhile (p := isTagNameChar) (l := body)
  rw [startTagToken]
  generalize body.takeWhile isTagNameChar = name at *
  generalize body.dropWhile isTagNameChar = inner at *
  subst hname
  have hcut : '<' :: (name ++ inner) = ['<'] ++ name ++ inner := by simp
  have hstart : start + 1 + byteLength name = start + byteLength (['<'] ++ name) := by
    simp only [byteLength_append]
    omega
  rw [hcut] at h ⊢
  rw [hstart]
  have hattrs := attributes_read h.right
  have hscan := hattrs.sound.prepend
  have hrest := hattrs.sound.rest h.right
  generalize attributes (Lines.ofText source) (start + byteLength (['<'] ++ name)) inner = scan at *
  have hcovers := hscan.covers h
  have hproblems : ∀ p ∈ (if scan.value.2 = .missing then scan.problems ++
      [⟨(Lines.ofText source).span start scan.offset,
        "Unterminated start tag \"" ++ String.ofList name ++ "\"", .error⟩]
      else scan.problems), p.span.Proper source := by
    intro p hp
    split at hp
    · rcases List.mem_append.1 hp with hp | hp
      · exact hscan.problems p hp
      · rw [List.mem_singleton.1 hp]
        exact hcovers.proper
    · exact hscan.problems p hp
  have horder : InOrder start (scan.value.1.map (·.span)) scan.offset :=
    hattrs.order.weaken_left (Nat.le_add_right _ _)
  dsimp only
  split
  · exact ⟨⟨hscan.reads, hproblems⟩, hcovers.proper, rfl, horder, hattrs.placed, rfl⟩
  · have hraw := rawText_read (Tag.content (Tag.localName (String.ofList name)))
      (Tag.localName (String.ofList name)).toList hrest
    have hreads := hscan.reads_trans hraw.sound
    exact ⟨⟨hreads, hproblems⟩, hcovers.proper, rfl, horder, hattrs.placed, hraw.placed⟩

theorem simpleLexeme_read (h : Stands source start (c :: cs)) :
    SimpleRead source start (c :: cs) (simpleLexeme (Lines.ofText source) start (c :: cs)) := by
  unfold simpleLexeme
  split
  · rename_i body hcons
    rw [hcons] at h ⊢
    exact commentToken_read h
  · rename_i body hcons
    split
    · rw [hcons] at h ⊢
      exact endTagToken_read h
    · exact textToken_read h
  · rename_i body _ _ hcons
    split
    · rw [hcons] at h ⊢
      exact startTagToken_read h
    · exact textToken_read h
  · exact textToken_read h

/-! ### Expansions -/

/-- A case whose content stands in the source, one character before the end of the case. -/
structure OpenCase.Placed (source : List Char) (k : OpenCase) : Prop where
  proper : k.span.Proper source
  content : Stands source k.contentStart k.content
  start : k.span.start.offset ≤ k.contentStart
  stop : k.span.stop.offset = k.contentStart + byteLength k.content + 1

/-- What a scan for cases has found: cases in order, from one offset to another. -/
structure CasesRead (source : List Char) (start : ℕ) (cs : List Char) (cases : List OpenCase) (stop : ℕ)
    (rest : List Char) : Prop where
  reads : ∃ taken, cs = taken ++ rest ∧ stop = start + byteLength taken
  order : InOrder start (cases.map (·.span)) stop
  placed : ∀ k ∈ cases, k.Placed source

theorem caseHead_append {value gap inner : List Char} (h : caseHead cs = some (value, gap, inner)) :
    cs = value ++ gap ++ ['\x7b'] ++ inner := by
  unfold caseHead at h
  split at h
  · cases h
  · split at h
    · rename_i hinner
      cases h
      rw [List.append_assoc, List.append_assoc, List.singleton_append, ← hinner,
        List.takeWhile_append_dropWhile, List.takeWhile_append_dropWhile]
    · cases h

/-- One more case before others. -/
theorem CasesRead.cons {blanks value gap content rest rest' : List Char} {cases : List OpenCase}
    {contentStart stop stop' : ℕ}
    (h : Stands source start (blanks ++ value ++ gap ++ ['\x7b'] ++ content ++ ['\x7d'] ++ rest))
    (hcontent : contentStart = start + byteLength (blanks ++ value ++ gap ++ ['\x7b']))
    (hstop : stop = contentStart + byteLength content + 1)
    (hmore : CasesRead source stop rest cases stop' rest') :
    CasesRead source start (blanks ++ value ++ gap ++ ['\x7b'] ++ content ++ ['\x7d'] ++ rest)
      (⟨String.ofList value, contentStart, content,
        (Lines.ofText source).span (start + byteLength blanks) stop⟩ :: cases) stop' rest' := by
  have hclose : byteLength ['\x7d'] = 1 := rfl
  have hcase : Stands source (start + byteLength blanks)
      (value ++ gap ++ ['\x7b'] ++ content ++ ['\x7d']) := by
    have := h.left
    simp only [List.append_assoc] at this ⊢
    exact this.right
  simp only [byteLength_append] at hcontent
  have hspan : ((Lines.ofText source).span (start + byteLength blanks) stop).Covers source
      (start + byteLength blanks) stop := hcase.covers (by simp only [byteLength_append]; omega)
  obtain ⟨taken, hread, hoffset⟩ := hmore.reads
  refine ⟨⟨blanks ++ value ++ gap ++ ['\x7b'] ++ content ++ ['\x7d'] ++ taken, ?_, ?_⟩,
    ⟨Nat.le_add_right _ _, hspan.proper.le, hmore.order⟩, ?_⟩
  · rw [hread, List.append_assoc _ taken]
  · simp only [byteLength_append]
    omega
  · intro k hk
    rcases List.mem_cons.1 hk with rfl | hk
    · refine ⟨hspan.proper, ?_, ?_, hstop⟩
      · rw [hcontent, ← byteLength_append, ← byteLength_append, ← byteLength_append]
        exact h.left.left.right
      · change start + byteLength blanks ≤ contentStart
        omega
    · exact hmore.placed k hk

theorem openCases_read {cases : List OpenCase} {stop : ℕ} {rest : List Char} (h : Stands source start cs)
    (hcases : openCases (Lines.ofText source) start cs = some (cases, stop, rest)) :
    CasesRead source start cs cases stop rest := by
  have hopen : byteLength ['\x7b'] = 1 := rfl
  have hclose : byteLength ['\x7d'] = 1 := rfl
  induction hn : cs.length using Nat.strongRecOn generalizing start cs cases stop rest with
  | _ n ih =>
    subst hn
    have hblank := List.takeWhile_append_dropWhile (p := isAsciiBlank) (l := cs)
    rw [openCases] at hcases
    generalize cs.takeWhile isAsciiBlank = blanks at *
    generalize cs.dropWhile isAsciiBlank = inner at *
    subst hblank
    dsimp only at hcases
    split at hcases
    · cases hcases
      have hcut : blanks ++ '\x7d' :: rest = blanks ++ ['\x7d'] ++ rest := by simp
      have hstop : start + byteLength blanks + 1 = start + byteLength (blanks ++ ['\x7d']) := by
        rw [byteLength_append, hclose, Nat.add_assoc]
      rw [hcut]
      exact ⟨⟨_, rfl, hstop⟩, hstop ▸ Nat.le_add_right _ _, List.forall_mem_nil _⟩
    · split at hcases
      · cases hcases
      · rename_i value gap body hhead
        split at hcases
        · cases hcases
        · rename_i content tail hbrace
          obtain ⟨⟨more, final⟩, hmore, hpair⟩ := Option.map_eq_some_iff.1 hcases
          cases hpair
          have hcut :
              blanks ++ inner = blanks ++ value ++ gap ++ ['\x7b'] ++ content ++ ['\x7d'] ++ tail := by
            simp [caseHead_append hhead, untilBrace_append hbrace]
          rw [hcut] at h ih ⊢
          have hcontent : start + byteLength blanks + byteLength value + byteLength gap + 1 =
              start + byteLength (blanks ++ value ++ gap ++ ['\x7b']) := by
            simp only [byteLength_append, hopen, Nat.add_assoc]
          have htail : Stands source (start + byteLength blanks + byteLength value + byteLength gap + 1 +
              byteLength content + 1) tail := by
            have := h.right
            simpa only [byteLength_append, hopen, hclose, ← Nat.add_assoc] using this
          exact CasesRead.cons h hcontent rfl (ih tail.length (by simp; omega) htail hmore rfl)

/-- What a scan for an expansion has found: cases in order inside it. -/
structure ExpansionRead (source : List Char) (start : ℕ) (cs : List Char) (e : OpenExpansion) (stop : ℕ)
    (rest : List Char) : Prop where
  reads : ∃ taken, cs = taken ++ rest ∧ stop = start + byteLength taken
  span : e.span.Covers source start stop
  order : InOrder start (e.cases.map (·.span)) stop
  placed : ∀ k ∈ e.cases, k.Placed source

theorem openExpansion_read {body : List Char} {e : OpenExpansion} {stop : ℕ} {rest : List Char}
    (h : Stands source start ('\x7b' :: body))
    (he : openExpansion (Lines.ofText source) start body = some (e, stop, rest)) :
    ExpansionRead source start ('\x7b' :: body) e stop rest := by
  have hopen : byteLength ['\x7b'] = 1 := rfl
  have hcomma : byteLength [','] = 1 := rfl
  unfold openExpansion at he
  split at he
  · cases he
  · rename_i switch afterSwitch hswitch
    dsimp only at he
    split at he
    · cases he
    · split at he
      · cases he
      · rename_i kind afterKind hkind
        split at he
        · cases he
        · split at he
          · cases he
          · rename_i cases stop' rest' hcases
            split at he
            · cases he
            · cases he
              have hcut : '\x7b' :: body = ['\x7b'] ++ switch ++ [','] ++ kind ++ [','] ++ afterKind := by
                simp [splitOnce_append hswitch, splitOnce_append hkind]
              rw [hcut] at h ⊢
              have hstart : start + byteLength switch + byteLength kind + 3 =
                  start + byteLength (['\x7b'] ++ switch ++ [','] ++ kind ++ [',']) := by
                simp only [byteLength_append]
                omega
              rw [hstart] at hcases
              have hread := openCases_read h.right hcases
              obtain ⟨taken, rfl, hstop⟩ := hread.reads
              rw [← List.append_assoc] at h ⊢
              have hstop' :
                  stop = start + byteLength (['\x7b'] ++ switch ++ [','] ++ kind ++ [','] ++ taken) := by
                rw [hstop, byteLength_append _ taken, Nat.add_assoc]
              exact ⟨⟨_, rfl, hstop'⟩, h.left.covers hstop',
                hread.order.weaken_left (Nat.le_add_right _ _), hread.placed⟩

theorem expansionLexeme_read {e : OpenExpansion} {stop : ℕ} {rest : List Char} (h : Stands source start cs)
    (he : expansionLexeme (Lines.ofText source) start cs = some (e, stop, rest)) :
    ExpansionRead source start cs e stop rest := by
  unfold expansionLexeme at he
  split at he
  · cases he
  · exact openExpansion_read h he
  · cases he

/-! ### All tokens -/

theorem simpleLexeme_startTag {lines : Lines} {body : List Char} (h : nameStarts body) :
    simpleLexeme lines start ('<' :: body) = startTagToken lines start body := by
  unfold simpleLexeme
  split
  · rename_i hcons
    cases hcons
    exact absurd h Bool.false_ne_true
  · rename_i hcons
    cases hcons
    exact absurd h Bool.false_ne_true
  · rename_i hcons
    cases hcons
    rw [if_pos h]
  · rename_i hcons
    exact absurd rfl (hcons _)

theorem tokens_nil (lines : Lines) (start : ℕ) : tokens lines start [] = [] := by
  rw [tokens]

theorem tokens_of_expansion {lines : Lines} {e : OpenExpansion} {stop : ℕ} {rest : List Char}
    (h : expansionLexeme lines start (c :: cs) = some (e, stop, rest)) :
    tokens lines start (c :: cs) =
      .expansion e.switch e.kind
          (e.cases.map fun k => .mk k.value (tokens lines k.contentStart k.content) k.span) e.span ::
        tokens lines stop rest := by
  rw [tokens]
  split
  · rename_i hsome
    rw [h] at hsome
    cases hsome
    simp
  · rename_i hnone
    rw [h] at hnone
    cases hnone

theorem tokens_of_simple {lines : Lines} (h : expansionLexeme lines start (c :: cs) = none) :
    tokens lines start (c :: cs) =
      .simple (simpleLexeme lines start (c :: cs)).problems (simpleLexeme lines start (c :: cs)).value ::
        tokens lines (simpleLexeme lines start (c :: cs)).offset
          (simpleLexeme lines start (c :: cs)).rest := by
  rw [tokens]
  split
  · rename_i hsome
    rw [h] at hsome
    cases hsome
  · rfl

mutual

/-- Tokens one behind the other, from one offset to another. -/
inductive TokensPlaced (source : List Char) : ℕ → List Token → ℕ → Prop
  | nil {lo : ℕ} : TokensPlaced source lo [] lo
  | simple {lo mid hi : ℕ} {problems s more} (placed : s.Placed source lo mid)
      (proper : ∀ p ∈ problems, p.span.Proper source) (more_placed : TokensPlaced source mid more hi) :
      TokensPlaced source lo (.simple problems s :: more) hi
  | expansion {lo mid hi : ℕ} {switch kind cases span more} (covers : span.Covers source lo mid)
      (cases_placed : CasesPlaced source lo cases mid) (more_placed : TokensPlaced source mid more hi) :
      TokensPlaced source lo (.expansion switch kind cases span :: more) hi

/-- Cases in order between two offsets. The tokens of a case end one byte before the case does. -/
inductive CasesPlaced (source : List Char) : ℕ → List TokenCase → ℕ → Prop
  | nil {lo hi : ℕ} (le : lo ≤ hi) : CasesPlaced source lo [] hi
  | cons {lo hi start stop : ℕ} {value content span more} (proper : span.Proper source)
      (lo_le : lo ≤ span.start.offset) (start_le : span.start.offset ≤ start)
      (content_placed : TokensPlaced source start content stop)
      (marks : ((Lines.ofText source).locate stop).Marks source) (stop_eq : span.stop.offset = stop + 1)
      (more_placed : CasesPlaced source span.stop.offset more hi) :
      CasesPlaced source lo (.mk value content span :: more) hi

end

theorem casesPlaced_of_order {cases : List OpenCase} {content : OpenCase → List Token}
    (horder : InOrder lo (cases.map (·.span)) hi) (hplaced : ∀ k ∈ cases, k.Placed source)
    (hcontent : ∀ k ∈ cases, TokensPlaced source k.contentStart (content k)
      (k.contentStart + byteLength k.content)) :
    CasesPlaced source lo (cases.map fun k => .mk k.value (content k) k.span) hi := by
  induction cases generalizing lo with
  | nil => exact .nil horder
  | cons k cases ih =>
    obtain ⟨hlo, -, hmore⟩ := horder
    have hk := hplaced k List.mem_cons_self
    have hmark : ((Lines.ofText source).locate (k.contentStart + byteLength k.content)).Marks source :=
      (hk.content.covers rfl).proper.stop
    refine .cons hk.proper hlo hk.start (hcontent k List.mem_cons_self) hmark hk.stop ?_
    exact ih hmore (fun j hj => hplaced j (List.mem_cons_of_mem _ hj))
      fun j hj => hcontent j (List.mem_cons_of_mem _ hj)

/-- The tokens of a text that stands in the source fill it. -/
theorem tokens_placed (h : Stands source start cs) :
    TokensPlaced source start (tokens (Lines.ofText source) start cs) (start + byteLength cs) := by
  induction hn : cs.length using Nat.strongRecOn generalizing start cs with
  | _ n ih =>
    subst hn
    cases cs with
    | nil =>
      rw [tokens_nil]
      exact .nil
    | cons c cs =>
      cases he : expansionLexeme (Lines.ofText source) start (c :: cs) with
      | some found =>
        obtain ⟨e, stop, rest⟩ := found
        have hread := expansionLexeme_read h he
        have hlength := expansionLexeme_length he
        rw [tokens_of_expansion he]
        obtain ⟨taken, hcs, rfl⟩ := hread.reads
        rw [hcs] at h ih hlength ⊢
        rw [byteLength_append, ← Nat.add_assoc]
        refine .expansion hread.span (casesPlaced_of_order hread.order hread.placed ?_)
          (ih _ hlength.1 h.right rfl)
        exact fun k hk => ih _ (hlength.2 k hk) (hread.placed k hk).content rfl
      | none =>
        have hread := simpleLexeme_read h
        have hlength := simpleLexeme_length (Lines.ofText source) start c cs
        rw [tokens_of_simple he]
        generalize simpleLexeme (Lines.ofText source) start (c :: cs) = scan at *
        have hmore := ih _ hlength (hread.sound.rest h) rfl
        obtain ⟨taken, hcs, hoffset⟩ := hread.sound.reads
        refine .simple hread.placed hread.sound.problems ?_
        rwa [hcs, byteLength_append, ← Nat.add_assoc, ← hoffset]

end ComponentAtlas.Markup

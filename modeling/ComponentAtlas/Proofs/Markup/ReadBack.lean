import ComponentAtlas.Proofs.Markup.Nesting
import ComponentAtlas.Proofs.Markup.Printing

/-!
# Printed trees are read back

* `AtTag`: where a text ends for certain;
* `textToken_written`, `commentToken_print`, `startTagToken_print`, `endTagToken_print`: the tokens of
  what is printed;
* `forest_reads`: printed trees become the next children of the innermost open element;
* `read_print`: printed trees are read without problems and are the same trees again.
-/

namespace ComponentAtlas.Markup

open ComponentAtlas.Text ComponentAtlas.Source

variable {r : References} {lines : Lines} {start : ℕ} {name : String} {cs rest : List Char}

/-! ### Texts -/

/-- The end of the source, or a place where a tag or a comment begins. -/
def AtTag (cs : List Char) : Prop := cs = [] ∨ ∃ body, cs = '<' :: body ∧ atMarkup cs

theorem textEnd_of_atTag (h : AtTag cs) : textEnd cs = cs := by
  rcases h with rfl | ⟨body, rfl, hmarkup⟩
  · rw [textEnd]
  · rw [textEnd, if_pos hmarkup]
    simp

/-- Characters that begin no markup are passed over one by one. -/
theorem textEnd_append {w : List Char} (hw : ∀ c ∈ w, c ≠ '<' ∧ c ≠ '\x7b') (h : AtTag rest) :
    textEnd (w ++ rest) = rest := by
  induction w with
  | nil => exact textEnd_of_atTag h
  | cons c w ih =>
    obtain ⟨hlt, hbrace⟩ := hw c List.mem_cons_self
    have hmarkup : atMarkup (c :: (w ++ rest)) = false := by
      unfold atMarkup
      split <;> simp_all
    rw [List.cons_append, textEnd, hmarkup]
    · exact ih fun d hd => hw d (List.mem_cons_of_mem _ hd)
    · intro _ hc _
      exact absurd hc hbrace

theorem afterText_append {w : List Char} (hw : ∀ c ∈ w, c ≠ '<' ∧ c ≠ '\x7b') (hne : w ≠ [])
    (h : AtTag rest) :
    afterText (w ++ rest) = rest := by
  obtain ⟨c, w, rfl⟩ := List.exists_cons_of_ne_nil hne
  have hbrace := (hw c List.mem_cons_self).2
  rw [List.cons_append, afterText]
  · exact textEnd_append (fun d hd => hw d (List.mem_cons_of_mem _ hd)) h
  · intro _ hc _
    exact absurd hc hbrace

theorem tokens_text {value : String} (hvalue : value ≠ "") (h : AtTag rest) (lines : Lines) (start : ℕ) :
    ∃ span stop, tokens lines start (r.written value.toList ++ rest) =
      .simple [] (.text value span) :: tokens lines stop rest := by
  have hne : r.written value.toList ≠ [] := written_ne_nil (by simpa using hvalue)
  have hplain := written_plain (r := r) value.toList
  have hdecode : Entity.decode (r.written value.toList) = value := by
    rw [decode_written, String.ofList_toList]
  generalize r.written value.toList = w at *
  have hafter := afterText_append (fun c hc => ⟨(hplain c hc).1, (hplain c hc).2.1⟩) hne h
  obtain ⟨c, w, rfl⟩ := List.exists_cons_of_ne_nil hne
  obtain ⟨hlt, hbrace, -⟩ := hplain c List.mem_cons_self
  have hexpansion : expansionLexeme lines start (c :: (w ++ rest)) = none := by
    unfold expansionLexeme
    split <;> simp_all
  have hsimple : simpleLexeme lines start (c :: (w ++ rest)) = textToken lines start (c :: (w ++ rest)) := by
    unfold simpleLexeme
    split <;> simp_all
  rw [List.cons_append] at hafter ⊢
  rw [tokens_of_simple hexpansion, hsimple, textToken, hafter]
  have htake : (c :: (w ++ rest)).take ((c :: (w ++ rest)).length - rest.length) = c :: w := by
    have hlength : (c :: (w ++ rest)).length - rest.length = (c :: w).length := by simp; omega
    rw [hlength]
    exact List.take_left
  rw [htake, hdecode]
  exact ⟨_, _, rfl⟩

/-! ### Comments -/

/-- A comment without an end mark of its own ends at the end mark behind it: a mark that begins inside
the comment would have a dash for its bracket. -/
theorem splitAtLiteral_comment {v : List Char} (h : containsLiteral ['-', '-', '>'] v = false)
    (rest : List Char) :
    splitAtLiteral ['-', '-', '>'] (v ++ ['-', '-', '>'] ++ rest) = some (v, rest) := by
  induction v with
  | nil => rfl
  | cons c v ih =>
    simp only [containsLiteral, Bool.or_eq_false_iff, Option.isSome_eq_false_iff,
      Option.isNone_iff_eq_none] at h
    have hhere : dropLiteral? ['-', '-', '>'] (c :: (v ++ ['-', '-', '>'] ++ rest)) = none := by
      match v, h.1 with
      | [], _ => simp [dropLiteral?]
      | [d], _ => simp [dropLiteral?]
      | d :: e :: v, hnone => simpa [dropLiteral?] using hnone
    rw [List.cons_append, List.cons_append, splitAtLiteral, hhere, ih h.2]
    rfl

theorem tokens_comment {value : String} (htrim : trimmed value = value)
    (hvalue : contains value "-->" = false)
    (lines : Lines) (start : ℕ) (rest : List Char) :
    ∃ span stop, tokens lines start ((Tree.comment value).print r ++ rest) =
      .simple [] (.comment value span) :: tokens lines stop rest := by
  have hsplit := splitAtLiteral_comment hvalue rest
  have hvalue : String.ofList (trim value.toList) = value := htrim
  rw [Tree.print]
  simp only [List.cons_append]
  rw [tokens_of_simple rfl, simpleLexeme, commentToken, hsplit]
  simp only [hvalue]
  exact ⟨_, _, rfl⟩

/-! ### Tags -/

theorem PlainName.exists_cons (h : PlainName name) : ∃ c cs, name.toList = c :: cs ∧ c.isAlpha := by
  have hstart := h.start
  cases hname : name.toList with
  | nil => simp [hname] at hstart
  | cons c cs => exact ⟨c, cs, rfl, by simpa [hname] using hstart⟩

theorem Tag.parts?_of_head {name : String} (h : name.toList.head? ≠ some ':') : Tag.parts? name = none := by
  rw [Tag.parts?]
  split
  · rename_i hcons
    exact absurd (by rw [hcons]; rfl) h
  · rfl

theorem Tag.localName_of_head {name : String} (h : name.toList.head? ≠ some ':') :
    Tag.localName name = name := by
  simp [Tag.localName, Tag.parts?_of_head h]

theorem PlainName.head_ne (h : PlainName name) : name.toList.head? ≠ some ':' := by
  obtain ⟨c, cs, hname, hc⟩ := h.exists_cons
  rw [hname]
  rintro ⟨⟩
  exact absurd hc (by decide)

theorem PlainName.localName (h : PlainName name) : Tag.localName name = name := Tag.localName_of_head h.head_ne

theorem PlainName.namespace? (h : PlainName name) : Tag.namespace? name = none := by
  simp [Tag.namespace?, Tag.parts?_of_head h.head_ne]

theorem PlainName.tag_chars (h : PlainName name) : ∀ c ∈ name.toList, isTagNameChar c ∧ c != '>' := by
  intro c hc
  have hplain := h.chars c hc
  have hne : ∀ d, ¬ (d.isAlphanum ∨ d = '-') → c ≠ d := by
    rintro d hd rfl
    exact hd hplain
  simp [isTagNameChar, isAsciiBlank, hne ' ' (by decide), hne '\t' (by decide), hne '\n' (by decide),
    hne '\x0c' (by decide), hne '\r' (by decide), hne '>' (by decide), hne '/' (by decide),
      hne '<' (by decide)]

/-- The name of a tag ends at a blank or a bracket. -/
theorem PlainName.scan (h : PlainName name) (rest : List Char) (hrest : ∀ c ∈ rest.head?, c = ' ' ∨ c = '>') :
    (name.toList ++ rest).takeWhile isTagNameChar = name.toList ∧
      (name.toList ++ rest).dropWhile isTagNameChar = rest := by
  refine takeWhile_append_stop _ _ _ (fun c hc => (h.tag_chars c hc).1) ?_
  intro c hc
  rcases hrest c hc with rfl | rfl <;> rfl

theorem tokens_endTag (h : PlainName name) (lines : Lines) (start : ℕ) (rest : List Char) :
    ∃ span stop, tokens lines start ('<' :: '/' :: (name.toList ++ '>' :: rest)) =
      .simple [] (.endTag name span) :: tokens lines stop rest := by
  obtain ⟨c, cs, hname, hc⟩ := h.exists_cons
  obtain ⟨htake, -⟩ := h.scan ('>' :: rest) (by simp)
  have hbracket : throughBracket (name.toList ++ '>' :: rest) = (name.toList ++ ['>'], rest) := by
    obtain ⟨htake, hdrop⟩ := takeWhile_append_stop (· != '>') name.toList ('>' :: rest)
      (fun c hc => (h.tag_chars c hc).2) (by simp)
    rw [throughBracket, hdrop, htake]
  have hstarts : nameStarts (name.toList ++ '>' :: rest) := by
    simp [hname, nameStarts, isNameStart, hc]
  rw [tokens_of_simple rfl, simpleLexeme, if_pos hstarts, endTagToken, htake, hbracket]
  simp only [String.ofList_toList, List.getLast?_append, List.getLast?_singleton]
  exact ⟨_, _, rfl⟩

/-! ### Attributes -/

theorem attrName_append_eq {n : List Char}
    (hn : ∀ c ∈ n, isAsciiBlank c = false ∧ c ≠ '=' ∧ c ≠ '<' ∧ c ≠ '>' ∧ c ≠ '/')
    (rest : List Char) : attrName (n ++ '=' :: rest) = (n, '=' :: rest) := by
  induction n with
  | nil => rfl
  | cons c n ih =>
    obtain ⟨hblank, heq, hlt, hgt, hslash⟩ := hn c List.mem_cons_self
    have hends : attrNameEnds (c :: (n ++ '=' :: rest)) = false := by
      unfold attrNameEnds
      split <;> simp_all
    rw [List.cons_append, attrName, hends, ih fun d hd => hn d (List.mem_cons_of_mem _ hd)]
    rfl

theorem PlainAttribute.exists_cons (h : PlainAttribute name) : ∃ c cs, name.toList = c :: cs :=
  List.exists_cons_of_ne_nil (by simpa using h.nonempty)

theorem attrValue_print (name value : String) (at_ : ℕ) :
    ∃ span valueSpan stop, attrValue lines start name at_ ('"' :: (r.written value.toList ++ '"' :: rest)) =
      ⟨⟨name, value, span, valueSpan⟩, [], stop, rest⟩ := by
  obtain ⟨htake, hdrop⟩ := takeWhile_append_stop (· != '"') (r.written value.toList) ('"' :: rest)
    (fun c hc => by simpa using (written_plain value.toList c hc).2.2) (by simp)
  have hdecode : Entity.decode (r.written value.toList) = value := by
    rw [decode_written, String.ofList_toList]
  have hquote : ('"' == '"' || '"' == '\'') = true := rfl
  rw [attrValue, if_pos hquote, htake, hdrop]
  dsimp only
  rw [hdecode]
  exact ⟨_, _, _, rfl⟩

theorem attribute?_print (h : PlainAttribute name) (value : String) (lines : Lines) (start : ℕ)
    (rest : List Char) :
    ∃ span valueSpan stop,
      attribute? lines start (name.toList ++ '=' :: '"' :: (r.written value.toList ++ '"' :: rest)) =
      ⟨⟨name, value, span, valueSpan⟩, [], stop, rest⟩ := by
  obtain ⟨c, cs, hname⟩ := h.exists_cons
  have hhead : attrHead (name.toList ++ '=' :: '"' :: (r.written value.toList ++ '"' :: rest)) =
      (name.toList, '=' :: '"' :: (r.written value.toList ++ '"' :: rest)) := by
    rw [attrHead, attrName_append_eq h.chars]
    simp [hname]
  have heq : ∀ cs, List.dropWhile isAsciiBlank ('=' :: cs) = '=' :: cs := fun _ => rfl
  have hquote : ∀ cs, List.dropWhile isAsciiBlank ('"' :: cs) = '"' :: cs := fun _ => rfl
  rw [attribute?, hhead]
  simp only [heq, hquote, String.ofList_toList]
  exact attrValue_print name value _

/-- One attribute of a start tag, behind blanks. -/
theorem attributes_of_attribute {c : Char} (blanks : List Char) (hblanks : ∀ b ∈ blanks, isAsciiBlank b)
    (hc : isAsciiBlank c = false ∧ c ≠ '=' ∧ c ≠ '<' ∧ c ≠ '>' ∧ c ≠ '/') {a : Scan Attribute}
    {more : Scan (List Attribute × TagEnd)} (ha : attribute? lines (start + byteLength blanks) (c :: cs) = a)
    (hmore : attributes lines a.offset a.rest = more) :
    attributes lines start (blanks ++ c :: cs) =
      ⟨(a.value :: more.value.1, more.value.2), a.problems ++ more.problems, more.offset, more.rest⟩ := by
  obtain ⟨hblank, -, hlt, hgt, hslash⟩ := hc
  obtain ⟨htake, hdrop⟩ := takeWhile_append_stop _ _ (c :: cs) hblanks (by simp [hblank])
  rw [attributes]
  split
  · rename_i hnil
    rw [hdrop] at hnil
    cases hnil
  · rename_i d tail hcons
    rw [hdrop] at hcons
    cases hcons
    simp [htake, ha, hmore, hlt, hgt, hslash]

/-- The attributes of a printed start tag. -/
theorem attributes_print {attrs : List (String × String)} (h : ∀ a ∈ attrs, PlainAttribute a.1)
    (lines : Lines) (start : ℕ)
    (rest : List Char) :
    ∃ as stop, attributes lines start (attrs.flatMap (printAttribute r) ++ '>' :: rest) =
      ⟨(as, .open), [], stop, rest⟩ ∧
      as.map (fun a => (a.name, a.value)) = attrs := by
  induction attrs generalizing start with
  | nil =>
    rw [attributes]
    exact ⟨_, _, rfl, rfl⟩
  | cons a attrs ih =>
    have ha := h a List.mem_cons_self
    obtain ⟨c, cs, hname⟩ := ha.exists_cons
    obtain ⟨span, valueSpan, stop, hattr⟩ := attribute?_print (r := r) ha a.2 lines (start + byteLength [' '])
      (attrs.flatMap (printAttribute r) ++ '>' :: rest)
    obtain ⟨as, stop', hmore, has⟩ := ih (fun b hb => h b (List.mem_cons_of_mem _ hb)) stop
    refine ⟨⟨a.1, a.2, span, valueSpan⟩ :: as, stop', ?_, by simp [has]⟩
    rw [hname] at hattr
    have hstep := attributes_of_attribute [' '] (List.forall_mem_singleton.2 rfl)
      (ha.chars c (by simp [hname])) hattr hmore
    simp only [List.flatMap_cons, printAttribute, hname, List.cons_append, List.append_assoc,
      List.nil_append] at hstep ⊢
    exact hstep

/-! ### Start tags -/

theorem startTagToken_print (h : PlainName name) {attrs : List (String × String)}
    (hattrs : ∀ a ∈ attrs, PlainAttribute a.1) (lines : Lines) (start : ℕ) (rest : List Char) :
    ∃ as span stop,
      startTagToken lines start (name.toList ++ attrs.flatMap (printAttribute r) ++ '>' :: rest) =
        ⟨.startTag ⟨name, as, false, span, none⟩, [], stop, rest⟩ ∧
      as.map (fun a => (a.name, a.value)) = attrs := by
  obtain ⟨as, stop, hscan, has⟩ := attributes_print (r := r) hattrs lines
    (start + 1 + byteLength name.toList) rest
  have hstop : ∀ c ∈ (attrs.flatMap (printAttribute r) ++ '>' :: rest).head?, c = ' ' ∨ c = '>' := by
    cases attrs <;> simp [printAttribute]
  obtain ⟨htake, hdrop⟩ := h.scan _ hstop
  refine ⟨as, lines.span start stop, stop, ?_, has⟩
  rw [List.append_assoc, startTagToken, htake, hdrop, hscan]
  simp [h.localName, h.parsed]

theorem tokens_startTag (h : PlainName name) {attrs : List (String × String)}
    (hattrs : ∀ a ∈ attrs, PlainAttribute a.1) (lines : Lines) (start : ℕ) (rest : List Char) :
    ∃ as span stop,
      tokens lines start ('<' :: (name.toList ++ attrs.flatMap (printAttribute r) ++ '>' :: rest)) =
        .simple [] (.startTag ⟨name, as, false, span, none⟩) :: tokens lines stop rest ∧
      as.map (fun a => (a.name, a.value)) = attrs := by
  obtain ⟨as, span, stop, htoken, has⟩ := startTagToken_print (r := r) h hattrs lines start rest
  obtain ⟨c, cs, hname, hc⟩ := h.exists_cons
  refine ⟨as, span, stop, ?_, has⟩
  rw [hname] at htoken ⊢
  simp only [List.cons_append] at htoken ⊢
  rw [tokens_of_simple rfl, simpleLexeme_startTag (by simp [nameStarts, isNameStart, hc]), htoken]

/-! ### Builders -/

namespace Builder

variable {b : Builder} {parent : Option String}

/-- The builder stands inside an element with a plain name, or outside all elements. -/
structure Inside (b : Builder) (parent : Option String) : Prop where
  innermost : b.frames.head?.map (·.head.name) = parent
  plain : ∀ p ∈ parent, PlainName p

@[simp] theorem siblings_setSiblings (b : Builder) (ns : List Node) : (b.setSiblings ns).siblings = ns := by
  obtain ⟨frames, roots, problems⟩ := b
  cases frames <;> rfl

@[simp] theorem setSiblings_siblings (b : Builder) : b.setSiblings b.siblings = b := by
  obtain ⟨frames, roots, problems⟩ := b
  cases frames <;> rfl

@[simp] theorem setSiblings_setSiblings (b : Builder) (ns ms : List Node) :
    (b.setSiblings ns).setSiblings ms = b.setSiblings ms := by
  obtain ⟨frames, roots, problems⟩ := b
  cases frames <;> rfl

theorem Inside.addNode (h : b.Inside parent) (n : Node) : (b.addNode n).Inside parent := by
  refine ⟨?_, h.plain⟩
  rw [← h.innermost]
  obtain ⟨frames, roots, problems⟩ := b
  cases frames <;> rfl

theorem Inside.fullName (h : b.Inside parent) (hname : PlainName name) : b.fullName name = name := by
  have hcolon : (name.toList.head? == some ':') = false := beq_false_of_ne hname.head_ne
  rw [Builder.fullName, hcolon]
  simp only [Bool.false_eq_true, if_false, hname.no_namespace, Option.none_or]
  obtain ⟨frames, roots, problems⟩ := b
  cases frames with
  | nil => rfl
  | cons f fs =>
    have hf := h.plain f.head.name (by rw [← h.innermost]; rfl)
    simp [hf.namespace?, Tag.merge]

theorem Inside.makeRoom (h : b.Inside parent) (hclosed : ∀ p ∈ parent, Tag.isClosedBy p name = false)
    (stop : Position) : b.makeRoom name stop = b := by
  obtain ⟨frames, roots, problems⟩ := b
  cases frames with
  | nil => rfl
  | cons f fs =>
    have hf := hclosed f.head.name (by rw [← h.innermost]; rfl)
    simp [Builder.makeRoom, hf]

theorem Inside.addStartTag (h : b.Inside parent) (hname : PlainName name)
    (hclosed : ∀ p ∈ parent, Tag.isClosedBy p name = false) (as : List Attribute) (span : Span) :
    b.addStartTag ⟨name, as, false, span, none⟩ =
      { b with frames := ⟨⟨name, as, span, false⟩, []⟩ :: b.frames } := by
  rw [Builder.addStartTag, h.fullName hname, h.makeRoom hclosed, beginElement]
  simp [hname.localName, hname.not_void]

theorem addTokens_simple {ts : List Token} {t : Simple} :
    b.addTokens lines (.simple [] t :: ts) = (b.addSimple t).addTokens lines ts := by
  rw [addTokens, addToken, List.append_nil]

theorem addText_of_ne {value : String} (hvalue : value ≠ "")
    (htext : ∀ n ∈ b.siblings.head?, n.isText = false)
    (span : Span) : b.addText value span = b.addNode (.text value span) := by
  rw [addText, if_neg (by simpa using hvalue)]
  split
  · rename_i before at_ rest hsiblings
    have := htext (.text before at_) (by rw [hsiblings]; rfl)
    exact absurd this (by simp [Node.isText])
  · rfl

end Builder

/-! ### Trees -/

theorem atTag_startTag (h : PlainName name) (cs : List Char) : AtTag ('<' :: (name.toList ++ cs)) := by
  obtain ⟨c, tail, hname, hc⟩ := h.exists_cons
  refine .inr ⟨_, rfl, ?_⟩
  rw [hname]
  unfold atMarkup
  split
  · rename_i hcons
    cases hcons
  · rename_i hcons
    cases hcons
    exact absurd hc (by decide)
  · rename_i hcons
    cases hcons
    simp [nameStarts, isNameStart, hc]
  · rename_i hcons
    exact absurd rfl (hcons _)

theorem atTag_endTag (h : PlainName name) (cs : List Char) : AtTag ('<' :: '/' :: (name.toList ++ cs)) := by
  obtain ⟨c, tail, hname, hc⟩ := h.exists_cons
  refine .inr ⟨_, rfl, ?_⟩
  simp [hname, atMarkup, nameStarts, isNameStart, hc]

theorem Tree.Plain.atTag {parent : Option String} {t : Tree} (ht : t.Plain parent) (htext : t.isText = false)
    (rest : List Char) : AtTag (t.print r ++ rest) := by
  cases t with
  | element name attrs children =>
    rw [Tree.print, List.cons_append, List.append_assoc, List.append_assoc]
    exact atTag_startTag ht.1 _
  | text value => cases htext
  | comment value => exact .inr ⟨_, rfl, rfl⟩

theorem PlainForest.atTag {parent : Option String} {ts : List Tree} (hts : PlainForest parent ts)
    (htext : ∀ t ∈ ts.head?, t.isText = false) (hrest : AtTag rest) : AtTag (printAll r ts ++ rest) := by
  cases ts with
  | nil => exact hrest
  | cons t ts =>
    rw [printAll, List.append_assoc]
    exact hts.1.atTag (htext t rfl) _

theorem isText_of_tree? {n : Node} {t : Tree} (h : n.tree? = some t) : n.isText = t.isText := by
  cases n with
  | element head children span endSpan =>
    obtain ⟨ts, -, rfl⟩ := Option.map_eq_some_iff.1 h
    rfl
  | text | comment =>
    cases h
    rfl
  | expansion e => cases h

mutual

/-- A printed tree becomes the next node. -/
theorem tree_reads (lines : Lines) (r : References) {t : Tree} {parent : Option String}
    (ht : t.Plain parent) {b : Builder} (hb : b.Inside parent)
    (hnext : t.isText → ∀ n ∈ b.siblings.head?, n.isText = false) (start : ℕ) {rest : List Char}
    (hrest : t.isText → AtTag rest) :
    ∃ n stop, n.tree? = some t ∧
      b.addTokens lines (tokens lines start (t.print r ++ rest)) =
        (b.addNode n).addTokens lines (tokens lines stop rest) := by
  match t with
  | .element name attrs children =>
    obtain ⟨hname, hclosed, hattrs, hchildren⟩ := ht
    have hprint : (Tree.element name attrs children).print r ++ rest =
        '<' :: (name.toList ++ attrs.flatMap (printAttribute r) ++ '>' ::
          (printAll r children ++ '<' :: '/' :: (name.toList ++ '>' :: rest))) := by
      simp [Tree.print]
    -- the start tag opens a frame, in which the children are read, and the end tag closes it
    obtain ⟨as, span, stop, hstart, has⟩ := tokens_startTag (r := r) hname hattrs lines start
      (printAll r children ++ '<' :: '/' :: (name.toList ++ '>' :: rest))
    have hopen :
        { b with frames := ⟨⟨name, as, span, false⟩, []⟩ :: b.frames : Builder }.Inside (some name) := by
      refine ⟨rfl, ?_⟩
      rintro p ⟨⟩
      exact hname
    obtain ⟨ns, stop', hns, hread⟩ := forest_reads lines r hchildren hopen (by simp [Builder.siblings]) stop
      (atTag_endTag hname ('>' :: rest))
    obtain ⟨endSpan, stop'', hend⟩ := tokens_endTag hname lines stop' rest
    refine ⟨.element ⟨name, as, span, false⟩ ns ⟨span.start, endSpan.stop⟩ (some endSpan), stop'', ?_, ?_⟩
    · simp [Node.tree?, hns, has]
    · rw [hprint, hstart, Builder.addTokens_simple, Builder.addSimple, hb.addStartTag hname hclosed, hread,
        hend, Builder.addTokens_simple, Builder.addSimple]
      simp only [Builder.siblings, Builder.setSiblings, List.append_nil]
      rw [Builder.addEndTag_innermost (by rw [hname.localName, hname.not_void])
        (by simp [Builder.endsElement]), Frame.close, List.reverse_reverse]
  | .text value =>
    obtain ⟨span, stop, htokens⟩ := tokens_text (r := r) ht (hrest rfl) lines start
    refine ⟨.text value span, stop, rfl, ?_⟩
    rw [Tree.print, htokens, Builder.addTokens_simple, Builder.addSimple,
      Builder.addText_of_ne ht (hnext rfl)]
  | .comment value =>
    obtain ⟨span, stop, htokens⟩ := tokens_comment (r := r) ht.1 ht.2 lines start rest
    refine ⟨.comment value span, stop, rfl, ?_⟩
    rw [htokens, Builder.addTokens_simple, Builder.addSimple]

/-- Printed trees become the next nodes. -/
theorem forest_reads (lines : Lines) (r : References) {ts : List Tree} {parent : Option String}
    (hts : PlainForest parent ts) {b : Builder}
    (hb : b.Inside parent) (hnext : ∀ t ∈ ts.head?, t.isText → ∀ n ∈ b.siblings.head?, n.isText = false)
    (start : ℕ) {rest : List Char} (hrest : AtTag rest) :
    ∃ ns stop, trees? ns = some ts ∧
      b.addTokens lines (tokens lines start (printAll r ts ++ rest)) =
        (b.setSiblings (ns.reverse ++ b.siblings)).addTokens lines (tokens lines stop rest) := by
  match ts with
  | [] => exact ⟨[], start, rfl, by simp [printAll]⟩
  | t :: ts =>
    obtain ⟨ht, hapart, hts⟩ := hts
    obtain ⟨n, stop, hn, hfirst⟩ := tree_reads lines r ht hb (hnext t rfl) start fun htext =>
      hts.atTag (hapart htext) hrest
    have hnext' : ∀ u ∈ ts.head?, u.isText → ∀ m ∈ (b.addNode n).siblings.head?, m.isText = false := by
      intro u hu hutext m hm
      rw [Builder.addNode, Builder.siblings_setSiblings] at hm
      cases hm
      rw [isText_of_tree? hn]
      by_contra htext
      rw [hapart (by simpa using htext) u hu] at hutext
      cases hutext
    obtain ⟨ns, stop', hns, hmore⟩ := forest_reads lines r hts (hb.addNode n) hnext' stop hrest
    refine ⟨n :: ns, stop', by simp [trees?, hn, hns], ?_⟩
    rw [printAll, List.append_assoc, hfirst, hmore]
    simp [Builder.addNode]

end

/-- Printed trees are read without problems and are the same trees again. -/
theorem read_print (r : References) (forest : List Tree) (h : PlainForest none forest) :
    (Document.read (String.ofList (printAll r forest))).problems = [] ∧
      trees? (Document.read (String.ofList (printAll r forest))).nodes = some forest := by
  have hnew : ({} : Builder).Inside none := ⟨rfl, fun _ hp => nomatch hp⟩
  obtain ⟨ns, stop, hns, hread⟩ := forest_reads (Lines.ofText (printAll r forest)) r h hnew
    (by simp [Builder.siblings]) 0
    (.inl rfl)
  rw [List.append_nil, tokens_nil, Builder.addTokens] at hread
  simp only [Document.read, String.toList_ofList, hread]
  simp [Builder.finish, Builder.setSiblings, Builder.siblings, Builder.closeInner_zero, hns]

/-- Texts, attributes and a comment with marks of markup in them. -/
def noticeBoard : List Tree :=
  [.text "1 < 2 & \x7b", .element "section" [("*ngIf", "a && \"b\""), ("[x]", "")]
    [.comment "<p>--", .text "Ä", .element "my-card" [] [.element "p" [] [], .text "\n"]]]

theorem read_print_noticeBoard :
    PlainForest none noticeBoard ∧
    (Document.read (String.ofList (printAll .decimal noticeBoard))).problems = [] ∧
      trees? (Document.read (String.ofList (printAll .decimal noticeBoard))).nodes = some noticeBoard := by
  have hplain : PlainForest none noticeBoard := by decide
  exact ⟨hplain, read_print .decimal noticeBoard hplain⟩

end ComponentAtlas.Markup

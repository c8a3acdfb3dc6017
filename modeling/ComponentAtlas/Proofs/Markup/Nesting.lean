import ComponentAtlas.Proofs.Markup.Scanning
import Mathlib.Data.List.Chain

/-!
# The tree of a source is well nested

An open element receives its end late: from its own end tag, from the end tag of an element around
it, from a child that it cannot contain or from the end of the text. What is known about the open
elements in the meantime is `Stack`: every level of nodes ends where the start tag of the next open
element begins.

* `Level`: the nodes of one level so far; `Level.push`, `Level.pop`: a node comes or is taken back;
* `Builder.Placed`: the invariant of a tree under construction, with one lemma for each step;
* `Builder.Placed.addTokens`: a run keeps it; `read_placed`: the result for a whole source.
-/

namespace ComponentAtlas.Markup

open ComponentAtlas.Text ComponentAtlas.Source

variable {source : List Char} {b : Builder} {f : Frame} {fs : List Frame} {n : Node} {nodes : List Node}
  {base lo mid hi pos : ℕ}

theorem Node.Placed.proper (h : n.Placed source) : n.span.Proper source := by
  cases h <;> assumption

/-! ### Levels -/

/-- The nodes of one level of a tree under construction, latest first. -/
structure Level (source : List Char) (lo : ℕ) (nodes : List Node) (hi : ℕ) : Prop where
  siblings : Siblings lo nodes.reverse hi
  placed : ∀ n ∈ nodes, n.Placed source

theorem level_nil (h : lo ≤ hi) : Level source lo [] hi := ⟨⟨h, .nil⟩, fun _ hn => nomatch hn⟩

theorem Level.le (h : Level source lo nodes hi) : lo ≤ hi := h.siblings.order.le

theorem Level.weaken {hi' : ℕ} (h : Level source lo nodes hi) (hhi : hi ≤ hi') : Level source lo nodes hi' :=
  ⟨⟨h.siblings.order.weaken_right hhi, h.siblings.texts⟩, h.placed⟩

theorem Level.stop_le (h : Level source lo nodes hi) (hn : n ∈ nodes) : n.span.stop.offset ≤ hi :=
  h.siblings.order.stop_le (List.mem_map_of_mem (List.mem_reverse.2 hn))

/-- One more node behind the others. -/
theorem Level.push (h : Level source lo nodes mid) (hn : n.Placed source) (hstart : mid ≤ n.span.start.offset)
    (hstop : n.span.stop.offset ≤ hi) (htext : n.isText → ∀ m ∈ nodes.head?, m.isText = false) :
    Level source lo (n :: nodes) hi := by
  refine ⟨⟨?_, ?_⟩, ?_⟩
  · rw [List.reverse_cons, List.map_append]
    exact h.siblings.order.concat hstart hn.proper.le hstop
  · rw [List.reverse_cons, List.isChain_append]
    refine ⟨h.siblings.texts, .singleton n, ?_⟩
    intro m hm k hk hboth
    rw [List.getLast?_reverse] at hm
    cases hk
    rw [htext hboth.2 m hm] at hboth
    exact nomatch hboth.1
  · intro m hm
    rcases List.mem_cons.1 hm with rfl | hm
    · exact hn
    · exact h.placed m hm

/-- The level without its last node ends where that node begins. -/
theorem Level.pop (h : Level source lo (n :: nodes) hi) : Level source lo nodes n.span.start.offset := by
  obtain ⟨⟨horder, htexts⟩, hplaced⟩ := h
  rw [List.reverse_cons, List.map_append] at horder
  rw [List.reverse_cons, List.isChain_append] at htexts
  obtain ⟨mid, hbefore, hmid, -⟩ := inOrder_append.1 horder
  exact ⟨⟨hbefore.weaken_right hmid, htexts.1⟩, fun m hm => hplaced m (List.mem_cons_of_mem _ hm)⟩

theorem Level.head_texts {n m : Node} (h : Level source lo (n :: m :: nodes) hi) (hn : n.isText) :
    m.isText = false := by
  have htexts := h.siblings.texts
  rw [List.reverse_cons, List.isChain_append] at htexts
  by_contra hm
  exact htexts.2.2 m (by simp) n rfl ⟨by simpa using hm, hn⟩

/-! ### Builders -/

/-- Open elements, the innermost first, and the complete nodes outside them. Every level ends where the
start tag of the next open element begins, the innermost one at `pos`. -/
def Stack (source : List Char) (base : ℕ) : List Frame → List Node → ℕ → Prop
  | [], roots, pos => Level source base roots pos
  | f :: fs, roots, pos =>
    f.head.Placed source ∧ Level source f.head.startSpan.stop.offset f.children pos ∧
      Stack source base fs roots f.head.startSpan.start.offset

/-- A tree under construction from the offset `base` up to `pos`. -/
structure Builder.Placed (source : List Char) (base pos : ℕ) (b : Builder) : Prop where
  stack : Stack source base b.frames b.roots pos
  problems : ∀ p ∈ b.problems, p.span.Proper source

namespace Builder

theorem placed_new (source : List Char) (base : ℕ) : ({} : Builder).Placed source base base :=
  ⟨level_nil (Nat.le_refl base), fun _ hp => nomatch hp⟩

/-- The innermost level can be changed on its own. -/
theorem Placed.level (h : b.Placed source base pos) :
    ∃ lo, Level source lo b.siblings pos ∧
      ∀ nodes pos', Level source lo nodes pos' → (b.setSiblings nodes).Placed source base pos' := by
  obtain ⟨frames, roots, problems⟩ := b
  obtain ⟨hstack, hproblems⟩ := h
  cases frames with
  | nil => exact ⟨base, hstack, fun nodes pos' hnodes => ⟨hnodes, hproblems⟩⟩
  | cons f fs =>
    obtain ⟨hhead, hlevel, hrest⟩ := hstack
    exact ⟨_, hlevel, fun nodes pos' hnodes => ⟨⟨hhead, hnodes, hrest⟩, hproblems⟩⟩

theorem Placed.weaken (h : b.Placed source base pos) (hpos : pos ≤ hi) : b.Placed source base hi := by
  obtain ⟨frames, roots, problems⟩ := b
  obtain ⟨hstack, hproblems⟩ := h
  cases frames with
  | nil => exact ⟨Level.weaken hstack hpos, hproblems⟩
  | cons f fs =>
    obtain ⟨hhead, hlevel, hrest⟩ := hstack
    exact ⟨⟨hhead, hlevel.weaken hpos, hrest⟩, hproblems⟩

theorem Placed.addNode (h : b.Placed source base pos) (hn : n.Placed source)
    (hstart : pos ≤ n.span.start.offset) (hstop : n.span.stop.offset ≤ hi) (htext : n.isText = false) :
    (b.addNode n).Placed source base hi := by
  obtain ⟨lo, hlevel, hset⟩ := h.level
  refine hset _ _ (hlevel.push hn hstart hstop fun h' => ?_)
  rw [htext] at h'
  cases h'

/-- A text extends the text just before it, so two texts never stand in a row. -/
theorem Placed.addText (h : b.Placed source base lo) {value : String} {span : Span}
    (hspan : span.Covers source lo hi) (hvalue : value ≠ "") :
    (b.addText value span).Placed source base hi := by
  obtain ⟨start, hlevel, hset⟩ := h.level
  rw [Builder.addText, if_neg (by simpa using hvalue)]
  split
  · rename_i before at_ rest hsiblings
    rw [hsiblings] at hlevel
    have hbefore := (hlevel.placed _ List.mem_cons_self).proper
    have hle : at_.stop.offset ≤ lo := hlevel.stop_le List.mem_cons_self
    have hjoined : (⟨at_.start, span.stop⟩ : Span).Proper source := by
      refine ⟨hbefore.start, hspan.proper.stop, ?_⟩
      calc at_.start.offset
          ≤ at_.stop.offset := hbefore.le
        _ ≤ lo := hle
        _ ≤ hi := hspan.le
        _ = span.stop.offset := hspan.stop.symm
    refine hset _ _ (hlevel.pop.push (.text hjoined ?_) (Nat.le_refl _) (Nat.le_of_eq hspan.stop) ?_)
    · simp [hvalue]
    · intro _ m hm
      cases rest with
      | nil => cases hm
      | cons k rest =>
        cases hm
        exact hlevel.head_texts rfl
  · rename_i hsiblings
    refine hset _ _ (hlevel.push (.text hspan.proper hvalue) (Nat.le_of_eq hspan.start.symm)
      (Nat.le_of_eq hspan.stop) ?_)
    intro _ m hm
    cases m with
    | text before at_ =>
      obtain ⟨rest, hrest⟩ := List.head?_eq_some_iff.1 hm
      exact absurd hrest (hsiblings before at_ rest)
    | element | comment | expansion => rfl

theorem Placed.report (h : b.Placed source base pos) {span : Span} (hspan : span.Proper source)
    (message : String) :
    (b.report span message).Placed source base pos := by
  refine ⟨h.stack, fun p hp => ?_⟩
  rcases List.mem_append.1 hp with hp | hp
  · exact h.problems p hp
  · rw [List.mem_singleton.1 hp]
    exact hspan

theorem Placed.addProblems (h : b.Placed source base pos) {problems : List Problem}
    (hproblems : ∀ p ∈ problems, p.span.Proper source) :
    { b with problems := b.problems ++ problems }.Placed source base pos :=
  ⟨h.stack, fun p hp => (List.mem_append.1 hp).elim (h.problems p) (hproblems p)⟩

/-! ### Elements that end -/

end Builder

/-- An open element that ends behind its children, and behind its end tag if it has one. -/
theorem Frame.close_placed {endSpan : Option Span} {stop : Position} (hhead : f.head.Placed source)
    (hlevel : Level source f.head.startSpan.stop.offset f.children pos) (hpos : pos ≤ stop.offset)
    (hstop : stop.Marks source)
    (hend : ∀ e ∈ endSpan, e.Covers source pos stop.offset) : (f.close endSpan stop).Placed source := by
  have hle : f.head.startSpan.stop.offset ≤ stop.offset := Nat.le_trans hlevel.le hpos
  refine .element ⟨hhead.proper.start, hstop, Nat.le_trans hhead.proper.le hle⟩ hhead rfl
    ⟨Nat.le_refl _, hle⟩ ?_
    (hlevel.weaken hpos).siblings ?_ fun n hn => hlevel.placed n (List.mem_reverse.1 hn)
  · intro e he
    obtain ⟨hproper, hstart, hstop⟩ := hend e he
    refine ⟨hproper, ?_, Nat.le_of_eq hstop⟩
    calc f.head.startSpan.start.offset
        ≤ f.head.startSpan.stop.offset := hhead.proper.le
      _ ≤ pos := hlevel.le
      _ = e.start.offset := hstart.symm
  · intro _ e he n hn
    rw [(hend e he).start]
    exact hlevel.stop_le (List.mem_reverse.1 hn)

namespace Builder

theorem closeInner_zero (b : Builder) (stop : Position) : b.closeInner 0 stop = b := by
  obtain ⟨frames, roots, problems⟩ := b
  cases frames <;> rfl

theorem closeInner_of_nil {stop : Position} {k : ℕ} (h : b.frames = []) : b.closeInner k stop = b := by
  obtain ⟨frames, roots, problems⟩ := b
  subst h
  cases k <;> rfl

/-- The innermost element ends first and is a child of the next one. -/
theorem closeInner_succ {stop : Position} (h : b.frames = f :: fs) (k : ℕ) :
    b.closeInner (k + 1) stop = ({ b with frames := fs }.addNode (f.close none stop)).closeInner k stop := by
  obtain ⟨frames, roots, problems⟩ := b
  subst h
  cases k with
  | zero => exact (closeInner_zero _ _).symm
  | succ k => cases fs <;> rfl

/-- An end tag closes the innermost element if it names it. -/
theorem addEndTag_innermost {name : String} {span : Span} (hvoid : Tag.isVoid (Tag.localName name) = false)
    (hends : endsElement name f.head.name) :
    { b with frames := f :: b.frames }.addEndTag name span = b.addNode (f.close (some span) span.stop) := by
  simp [addEndTag, hvoid, depthOf?, hends, closeInner_zero]

theorem Placed.closeInner {stop : Position} (h : b.Placed source base pos) (hpos : pos ≤ stop.offset)
    (hstop : stop.Marks source) (k : ℕ) : (b.closeInner k stop).Placed source base stop.offset := by
  induction k generalizing b pos with
  | zero =>
    rw [closeInner_zero]
    exact h.weaken hpos
  | succ k ih =>
    cases hframes : b.frames with
    | nil =>
      rw [closeInner_of_nil hframes]
      exact h.weaken hpos
    | cons f fs =>
      obtain ⟨hstack, hproblems⟩ := h
      rw [hframes] at hstack
      obtain ⟨hhead, hlevel, hrest⟩ := hstack
      have hnode : (f.close none stop).Placed source :=
        f.close_placed hhead hlevel hpos hstop fun _ he => nomatch he
      have houter : { b with frames := fs }.Placed source base f.head.startSpan.start.offset :=
        ⟨hrest, hproblems⟩
      rw [closeInner_succ hframes]
      exact ih (houter.addNode hnode (Nat.le_refl _) (Nat.le_refl _) rfl) (Nat.le_refl _)

theorem length_frames_closeInner (b : Builder) (k : ℕ) (stop : Position) :
    (b.closeInner k stop).frames.length = b.frames.length - k := by
  obtain ⟨frames, roots, problems⟩ := b
  simp only [Builder.closeInner, setSiblings]
  rw [← List.length_drop]
  split
  · rename_i hframes
    simp [hframes]
  · rename_i hframes
    simp [hframes]

theorem Placed.addEndTag (h : b.Placed source base lo) {span : Span} (hspan : span.Covers source lo hi)
    (name : String) : (b.addEndTag name span).Placed source base hi := by
  have hclosed := h.closeInner (Nat.le_of_eq hspan.start.symm) hspan.proper.start
  unfold Builder.addEndTag
  split
  · exact (h.weaken hspan.le).report hspan.proper _
  · split
    · rename_i k _
      obtain ⟨hstack, hproblems⟩ := hclosed k
      generalize b.closeInner k span.start = c at *
      dsimp only
      split
      · rename_i f fs hframes
        rw [hframes] at hstack
        obtain ⟨hhead, hlevel, hrest⟩ := hstack
        have hnode : (f.close (some span) span.stop).Placed source := by
          refine f.close_placed hhead hlevel hspan.proper.le hspan.proper.stop ?_
          rintro e ⟨⟩
          exact ⟨hspan.proper, rfl, rfl⟩
        have houter : { c with frames := fs }.Placed source base f.head.startSpan.start.offset :=
          ⟨hrest, hproblems⟩
        exact houter.addNode hnode (Nat.le_refl _) (Nat.le_of_eq hspan.stop) rfl
      · have hc : c.Placed source base span.start.offset := ⟨hstack, hproblems⟩
        exact hc.weaken (hspan.start ▸ hspan.le)
    · exact (h.weaken hspan.le).report hspan.proper _

/-! ### Elements that begin -/

end Builder

theorem StartTag.Placed.stop_le {tag : StartTag} (h : tag.Placed source lo hi) :
    tag.span.stop.offset ≤ hi := by
  have hstop := h.stop
  split at hstop
  · exact Nat.le_of_eq hstop
  · rename_i raw _
    have hraw := hstop.proper.le
    have hend := hstop.stop
    rw [hstop.start] at hraw
    split at hend
    · omega
    · exact Nat.le_trans hraw hend.le

/-- An element that consists of its start tag. -/
theorem StartTag.Placed.alone {tag : StartTag} (h : tag.Placed source lo hi) (name : String)
    (endSpan : Option Span) (hend : ∀ e ∈ endSpan, e = tag.span ∧ tag.selfClosing) :
    (Node.element ⟨name, tag.attrs, tag.span, tag.selfClosing⟩ [] tag.span endSpan).Placed source := by
  refine .element h.proper ⟨h.proper, h.start ▸ h.order, h.attrs⟩ rfl ⟨Nat.le_refl _, Nat.le_refl _⟩ ?_
    ⟨Nat.le_refl _, .nil⟩ (fun _ _ _ _ hn => nomatch hn) fun _ hn => nomatch hn
  intro e he
  rw [(hend e he).1]
  exact ⟨h.proper, Nat.le_refl _, Nat.le_refl _⟩

/-- An element with raw text, which ends behind the text or behind its end tag. -/
theorem StartTag.Placed.raw {tag : StartTag} {raw : Raw} {stop : Position} (h : tag.Placed source lo hi)
    (name : String) (endSpan : Option Span) (hraw : raw.Placed source tag.span.stop.offset hi)
    (hle : raw.span.stop.offset ≤ stop.offset) (hstop : stop.Marks source)
    (hend : ∀ e ∈ endSpan, e.Covers source raw.span.stop.offset stop.offset) :
    (Node.element ⟨name, tag.attrs, tag.span, tag.selfClosing⟩
      (if raw.value == "" then [] else [.text raw.value raw.span])
        ⟨tag.span.start, stop⟩ endSpan).Placed source := by
  have hhead : (⟨name, tag.attrs, tag.span, tag.selfClosing⟩ : Head).Placed source :=
    ⟨h.proper, h.start ▸ h.order, h.attrs⟩
  have hempty : Level source tag.span.stop.offset [] tag.span.stop.offset := level_nil (Nat.le_refl _)
  split
  · refine Frame.close_placed (f := ⟨_, []⟩) hhead (hempty.weaken ?_) hle hstop hend
    rw [← hraw.start]
    exact hraw.proper.le
  · rename_i hvalue
    have htext : (Node.text raw.value raw.span).Placed source := .text hraw.proper (by simpa using hvalue)
    exact Frame.close_placed (f := ⟨_, [_]⟩) hhead
      (hempty.push htext (Nat.le_of_eq hraw.start.symm) (Nat.le_refl _) fun _ _ hm => nomatch hm)
      hle hstop hend

namespace Builder

theorem Placed.makeRoom {stop : Position} (h : b.Placed source base pos) (hpos : pos ≤ stop.offset)
    (hstop : stop.Marks source) (name : String) : (b.makeRoom name stop).Placed source base stop.offset := by
  unfold Builder.makeRoom
  split
  · split
    · exact h.closeInner hpos hstop 1
    · exact h.weaken hpos
  · exact h.weaken hpos

theorem Placed.beginElement (h : b.Placed source base lo) {tag : StartTag} (htag : tag.Placed source lo hi)
    (name : String) : (b.beginElement name tag).Placed source base hi := by
  have hstart : lo ≤ tag.span.start.offset := Nat.le_of_eq htag.start.symm
  have hhead : (⟨name, tag.attrs, tag.span, tag.selfClosing⟩ : Head).Placed source :=
    ⟨htag.proper, htag.start ▸ htag.order, htag.attrs⟩
  have hstop := htag.stop
  unfold Builder.beginElement
  dsimp only
  split
  · rename_i hself
    have hnode := htag.alone name (some tag.span) (by rintro e ⟨⟩; exact ⟨rfl, hself⟩)
    split
    · exact h.addNode hnode hstart htag.stop_le rfl
    · exact (h.report htag.proper _).addNode hnode hstart htag.stop_le rfl
  · split
    · exact h.addNode (htag.alone name none (by simp)) hstart htag.stop_le rfl
    · split
      · rename_i hraw
        rw [hraw] at hstop
        refine ⟨⟨hhead, level_nil (Nat.le_of_eq hstop), ?_⟩, h.problems⟩
        rw [htag.start]
        exact h.stack
      · rename_i raw hraw
        rw [hraw] at hstop
        have hend := hstop.stop
        split
        · rename_i e he
          rw [he] at hend
          have hnode := htag.raw name (some e) hstop (hend.start ▸ hend.proper.le) hend.proper.stop
            (by rintro _ ⟨⟩; exact ⟨hend.proper, hend.start, rfl⟩)
          exact h.addNode hnode hstart (Nat.le_of_eq hend.stop) rfl
        · rename_i he
          rw [he] at hend
          have hnode := htag.raw name none hstop (Nat.le_refl _) hstop.proper.stop (by simp)
          exact (h.report htag.proper _).addNode hnode hstart (Nat.le_of_eq hend) rfl

theorem Placed.addStartTag (h : b.Placed source base lo) {tag : StartTag} (htag : tag.Placed source lo hi) :
    (b.addStartTag tag).Placed source base hi := by
  have hroom := h.makeRoom (Nat.le_of_eq htag.start.symm) htag.proper.start (b.fullName tag.name)
  rw [htag.start] at hroom
  exact hroom.beginElement htag _

/-! ### Runs -/

theorem Placed.addSimple (h : b.Placed source base lo) {s : Simple} (hs : s.Placed source lo hi) :
    (b.addSimple s).Placed source base hi := by
  cases s with
  | comment value span =>
    have hspan : span.Covers source lo hi := hs
    exact h.addNode (.comment hspan.proper) (Nat.le_of_eq hspan.start.symm) (Nat.le_of_eq hspan.stop) rfl
  | text value span => exact h.addText hs.1 hs.2
  | startTag tag => exact h.addStartTag hs
  | endTag name span => exact h.addEndTag hs name

theorem Placed.heads (h : b.Placed source base pos) : ∀ f ∈ b.frames, f.head.Placed source := by
  have hstack := h.stack
  clear h
  generalize b.frames = frames at hstack ⊢
  induction frames generalizing pos with
  | nil => exact fun _ hf => nomatch hf
  | cons f fs ih =>
    obtain ⟨hhead, -, hrest⟩ := hstack
    exact List.forall_mem_cons.2 ⟨hhead, ih hrest⟩

/-- A tree is finished by ending all open elements where the source ends. -/
theorem Placed.finish {stop : Position} (h : b.Placed source base pos) (hpos : pos ≤ stop.offset)
    (hstop : stop.Marks source) : (b.finish stop).Placed source base stop.offset := by
  have hclosed := (h.closeInner hpos hstop b.frames.length).stack
  have hframes : (b.closeInner b.frames.length stop).frames = [] := by
    apply List.eq_nil_of_length_eq_zero
    rw [length_frames_closeInner, Nat.sub_self]
  rw [hframes] at hclosed
  refine ⟨hclosed.siblings, fun n hn => hclosed.placed n (List.mem_reverse.1 hn), fun p hp => ?_⟩
  rcases List.mem_append.1 hp with hp | hp
  · exact h.problems p hp
  · obtain ⟨f, hf, hunclosed⟩ := List.mem_filterMap.1 hp
    unfold unclosed at hunclosed
    split at hunclosed
    · cases hunclosed
    · cases hunclosed
      exact (h.heads f hf).proper

/-- What has become of the cases of an expansion. -/
structure CasesFinished (source : List Char) (lo hi : ℕ) (cases : List Case)
    (problems : List Problem) : Prop where
  order : InOrder lo (cases.map Case.span) hi
  proper : ∀ c ∈ cases, c.span.Proper source
  siblings : ∀ c ∈ cases, Siblings c.span.start.offset c.nodes c.span.stop.offset
  nodes : ∀ c ∈ cases, ∀ n ∈ c.nodes, n.Placed source
  problems : ∀ p ∈ problems, p.span.Proper source

theorem casesFinished_nil (h : lo ≤ hi) : CasesFinished source lo hi [] [] :=
  ⟨h, by simp, by simp, by simp, by simp⟩

/-- One more case before others. Its content ends one byte before the case does. -/
theorem CasesFinished.cons {cases : List Case} {problems : List Problem} {span : Span} {value : String}
    {start stop : ℕ} (h : CasesFinished source span.stop.offset hi cases problems)
    (hproper : span.Proper source)
    (hlo : lo ≤ span.start.offset) (hstart : span.start.offset ≤ start) (hstop : span.stop.offset = stop + 1)
    (hbuilt : (b.finish ((Lines.ofText source).locate stop)).Placed source start stop) :
    CasesFinished source lo hi
      (.mk value (b.finish ((Lines.ofText source).locate (span.stop.offset - 1))).nodes span :: cases)
      ((b.finish ((Lines.ofText source).locate (span.stop.offset - 1))).problems ++ problems) := by
  have hlast : span.stop.offset - 1 = stop := by omega
  rw [hlast]
  have hsiblings : Siblings span.start.offset (b.finish ((Lines.ofText source).locate stop)).nodes
      span.stop.offset := by
    refine ⟨(hbuilt.siblings.order.weaken_left hstart).weaken_right ?_, hbuilt.siblings.texts⟩
    rw [hstop]
    exact Nat.le_succ stop
  exact ⟨⟨hlo, hproper.le, h.order⟩, List.forall_mem_cons.2 ⟨hproper, h.proper⟩,
    List.forall_mem_cons.2 ⟨hsiblings, h.siblings⟩, List.forall_mem_cons.2 ⟨hbuilt.nodes, h.nodes⟩,
    fun p hp => (List.mem_append.1 hp).elim (hbuilt.problems p) (h.problems p)⟩

mutual

theorem Placed.addTokens {lo hi : ℕ} {ts : List Token} (hts : TokensPlaced source lo ts hi) {b : Builder}
    {base : ℕ} (h : b.Placed source base lo) :
    (b.addTokens (Lines.ofText source) ts).Placed source base hi := by
  cases hts with
  | nil => exact h
  | simple hplaced hproper hmore => exact Placed.addTokens hmore ((h.addProblems hproper).addSimple hplaced)
  | expansion hcovers hcases hmore =>
    have hfinished := readCases_finished hcases
    refine Placed.addTokens hmore ((h.addProblems hfinished.problems).addNode ?_
      (Nat.le_of_eq hcovers.start.symm)
      (Nat.le_of_eq hcovers.stop) rfl)
    refine .expansion hcovers.proper ?_ hfinished.proper hfinished.siblings hfinished.nodes
    rw [hcovers.start, hcovers.stop]
    exact hfinished.order

theorem readCases_finished {lo hi : ℕ} {cases : List TokenCase} (hcases : CasesPlaced source lo cases hi) :
    CasesFinished source lo hi (readCases (Lines.ofText source) cases).1
      (readCases (Lines.ofText source) cases).2 := by
  cases hcases with
  | nil hle => exact casesFinished_nil hle
  | cons hproper hlo hstart hcontent hmarks hstop hmore =>
    have hbuilt := Placed.addTokens hcontent (placed_new source _)
    exact (readCases_finished hmore).cons hproper hlo hstart hstop (hbuilt.finish (Nat.le_refl _) hmarks)

end

end Builder

/-- The spans of every source form a well-nested tree: they are cut between characters and have the
lines and columns of their cuts, parts lie inside the whole, and siblings stand one after the other,
without empty texts and without two texts in a row. -/
theorem read_placed (source : String) :
    (Document.read source).Placed source.toList 0 source.utf8ByteSize := by
  have htokens := tokens_placed (stands_self source.toList)
  rw [Nat.zero_add] at htokens
  rw [← byteLength_toList]
  have hend : ((Lines.ofText source.toList).locate (byteLength source.toList)).Marks source.toList :=
    ((stands_self source.toList).covers (Nat.zero_add _).symm).proper.stop
  exact (Builder.Placed.addTokens htokens (Builder.placed_new _ 0)).finish (Nat.le_refl _) hend

end ComponentAtlas.Markup

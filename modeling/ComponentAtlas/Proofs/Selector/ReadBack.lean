import ComponentAtlas.Proofs.Selector.Progress

/-!
# Rendered selectors are read back

The selectors that were read from a text are written and read again. A written selector has its parts in
a fixed order, so that the lexemes of its text can be told in advance.

* `written`: the lexemes of a written selector; `lexemes_render`: its text yields them;
* `Edits`, `run_written`: they are folded into the selector;
* `ofText_render`: a list of selectors, written and joined by commas, is read back.
-/

namespace ComponentAtlas.Selector

open ComponentAtlas.Text ComponentAtlas.Selector.Progress

variable {cs rest : List Char} {t : Lexeme} {ls ls' : List Lexeme} {f g : Selector → Selector}
  {s u n : Selector} {done nots sels : List Selector}

/-! ### Attribute names -/

/-- An attribute name as it is written. -/
def escaped (name : String) : String := replaceChar '$' "\\$" name

theorem toList_escaped (name : String) :
    (escaped name).toList = name.toList.flatMap fun c => if c == '$' then ['\\', '$'] else [c] := by
  rw [escaped, replaceChar, String.toList_ofList]
  rfl

theorem unescape_escaped {name : String} (h : ∀ c ∈ name.toList, c ≠ '\\') :
    unescape (escaped name) = .ok name := by
  have hgo : ∀ (cs out : List Char), (∀ c ∈ cs, c ≠ '\\') →
      unescape.go (escaped name) false out (cs.flatMap fun c => if c == '$' then ['\\', '$'] else [c]) =
        .ok (String.ofList (out.reverse ++ cs)) := by
    intro cs
    induction cs with
    | nil =>
      intro out _
      rw [List.append_nil]
      rfl
    | cons c cs ih =>
      intro out hcs
      obtain ⟨hc, hcs⟩ := List.forall_mem_cons.1 hcs
      have hrest : (c :: out).reverse ++ cs = out.reverse ++ c :: cs := by simp
      rw [List.flatMap_cons, ← hrest, ← ih (c :: out) hcs]
      by_cases hdollar : c = '$'
      · subst hdollar
        rfl
      · simp [hdollar, hc, unescape.go]
  rw [unescape, toList_escaped, hgo name.toList [] h, List.reverse_nil, List.nil_append,
    String.ofList_toList]

theorem isAttrName_escaped {name : String} (hne : name ≠ "") (h : ∀ c ∈ name.toList, isAttrNameChar c) :
    IsAttrName (escaped name) := by
  rw [IsAttrName, toList_escaped]
  constructor
  · cases hchars : name.toList with
    | nil => exact absurd (String.toList_eq_nil_iff.1 hchars) hne
    | cons c cs =>
      rw [List.flatMap_cons]
      split <;> simp
  · intro c hc
    obtain ⟨b, hb, hc⟩ := List.mem_flatMap.1 hc
    split at hc
    · have hescape : ∀ d ∈ ['\\', '$'], isAttrNameChar d := List.all_eq_true.1 (by decide)
      exact hescape c hc
    · rw [List.mem_singleton.1 hc]
      exact h b hb

/-! ### The lexemes of a written selector -/

@[simp] theorem eta (s : Selector) : Selector.mk s.element s.classes s.attrs s.nots = s := by
  cases s
  rfl

/-- The parts behind the element name, `:not` parts apart. -/
def writtenMarks (s : Selector) : List Lexeme :=
  s.classes.map .cls ++ s.attrs.map fun a => .attr (escaped a.1) a.2

/-- The parts of a selector, `:not` parts apart. -/
def writtenOwn (s : Selector) : List Lexeme := s.element.toList.map .element ++ writtenMarks s

/-- The `:not` parts. -/
def writtenNots (nots : List Selector) : List Lexeme :=
  nots.flatMap fun n => .notOpen :: (writtenOwn n ++ [.close])

/-- The parts of a selector in the order in which they are written. -/
def written (s : Selector) : List Lexeme := writtenOwn s ++ writtenNots s.nots

/-- The attributes can be written so that they are read again: they have names, and values that need no
quotes. -/
def Tame (attrs : List (String × String)) : Prop := ∀ a ∈ attrs, a.1 ≠ "" ∧ IsBareValue a.2

theorem renderAttr_toList (a : String × String) :
    (renderAttr a).toList = (Lexeme.attr (escaped a.1) a.2).text := by
  obtain ⟨name, value⟩ := a
  simp only [renderAttr, Lexeme.text_attr, escaped, beq_iff_eq]
  split <;> simp

theorem render_toList (s : Selector) :
    s.render.toList = (s.element.getD "").toList ++
      ((writtenMarks s).flatMap Lexeme.text ++ (renderNots s.nots).toList) := by
  have hclasses : (renderClasses s.classes).toList =
      (s.classes.map Lexeme.cls).flatMap Lexeme.text := by
    rw [renderClasses, String.toList_join, List.flatMap_map, List.flatMap_map]
    simp [Lexeme.text_cls]
  have hattrs : (String.join (s.attrs.map renderAttr)).toList =
      (s.attrs.map fun a => Lexeme.attr (escaped a.1) a.2).flatMap Lexeme.text := by
    simp only [String.toList_join, List.flatMap_map, renderAttr_toList]
  have hrender : s.render =
      s.element.getD "" ++ renderClasses s.classes ++ String.join (s.attrs.map renderAttr) ++
        renderNots s.nots := by
    cases s
    rw [render]
  rw [hrender, String.toList_append, String.toList_append, String.toList_append, hclasses, hattrs,
    writtenMarks, List.flatMap_append]
  simp only [List.append_assoc]

theorem plain_of_mem_writtenMarks (hs : s.Own cs) (hattrs : Tame s.attrs) (ht : t ∈ writtenMarks s) :
    t.Plain ∧ ∀ ds, Apart (t.text ++ ds) := by
  rcases List.mem_append.1 ht with ht | ht
  · obtain ⟨name, hname, rfl⟩ := List.mem_map.1 ht
    exact ⟨(hs.classes name hname).1, fun ds => apart_cons (by decide) _⟩
  · obtain ⟨a, ha, rfl⟩ := List.mem_map.1 ht
    obtain ⟨hne, hvalue⟩ := hattrs a ha
    refine ⟨⟨isAttrName_escaped hne fun c hc => (hs.names a ha c hc).1, hvalue⟩, fun ds => ?_⟩
    exact apart_cons (by decide) _

/-- Marked parts are read one after the other. -/
theorem lexemes_texts (hls : ∀ t ∈ ls, t.Plain ∧ ∀ ds, Apart (t.text ++ ds)) (hrest : Apart rest) :
    lexemes (ls.flatMap Lexeme.text ++ rest) = ls ++ lexemes rest ∧
      Apart (ls.flatMap Lexeme.text ++ rest) := by
  induction ls with
  | nil => exact ⟨rfl, hrest⟩
  | cons t ls ih =>
    obtain ⟨⟨hplain, hapart⟩, hls⟩ := List.forall_mem_cons.1 hls
    obtain ⟨hlexemes, happart⟩ := ih hls
    rw [List.flatMap_cons, List.append_assoc]
    exact ⟨by rw [lexemes_text hplain happart, hlexemes, List.cons_append], hapart _⟩

theorem lexemes_own (hs : s.Own cs) (hattrs : Tame s.attrs) (hrest : Apart rest) :
    lexemes ((s.element.getD "").toList ++ ((writtenMarks s).flatMap Lexeme.text ++ rest)) =
      writtenOwn s ++ lexemes rest := by
  obtain ⟨hmarks, hapart⟩ := lexemes_texts (fun t ht => plain_of_mem_writtenMarks hs hattrs ht) hrest
  cases helement : s.element with
  | none => simpa [writtenOwn, helement] using hmarks
  | some name =>
    have hread := lexemes_text (t := .element name) (hs.element name helement) hapart
    simpa [writtenOwn, helement, hmarks, Lexeme.text_element] using hread

theorem lexemes_renderNots (hnots : ∀ n ∈ nots, (n.Own cs ∧ n.nots = []) ∧ Tame n.attrs)
    (hrest : Apart rest) :
    lexemes ((renderNots nots).toList ++ rest) = writtenNots nots ++ lexemes rest ∧
      Apart ((renderNots nots).toList ++ rest) := by
  induction nots with
  | nil => exact ⟨rfl, hrest⟩
  | cons n nots ih =>
    obtain ⟨⟨⟨hown, hnil⟩, hattrs⟩, hnots⟩ := List.forall_mem_cons.1 hnots
    obtain ⟨hlexemes, -⟩ := ih hnots
    have htext : (renderNots (n :: nots)).toList ++ rest =
        ":not(".toList ++ ((n.element.getD "").toList ++
          ((writtenMarks n).flatMap Lexeme.text ++ (')' :: ((renderNots nots).toList ++ rest)))) := by
      rw [renderNots, String.toList_append, String.toList_append, String.toList_append, render_toList,
        hnil]
      simp [renderNots]
    rw [htext]
    refine ⟨?_, apart_cons (by decide) _⟩
    rw [lexemes_of_some (lexeme_notOpen _), lexemes_own hown hattrs (apart_cons (by decide) _),
      lexemes_of_some (lexeme_close _), hlexemes]
    simp [writtenNots]

/-- The text of a selector yields its parts, whatever stands behind it, if only no name goes on
there. -/
theorem lexemes_render (hu : u.Read cs) (hattrs : ∀ a, u.Mentions a → a.1 ≠ "" ∧ IsBareValue a.2)
    (hrest : Apart rest) :
    lexemes ((complete u).render.toList ++ rest) = written u ++ lexemes rest := by
  have htame : Tame u.attrs := fun a ha => hattrs a (.attr ha)
  have hnots : ∀ n ∈ u.nots, (n.Own cs ∧ n.nots = []) ∧ Tame n.attrs := fun n hn =>
    ⟨hu.nots n hn, fun a ha => hattrs a (.not hn (.attr ha))⟩
  obtain ⟨hlexemes, hapart⟩ := lexemes_renderNots hnots hrest
  rw [render_toList, complete_nots, List.append_assoc, List.append_assoc]
  unfold complete
  split
  · next hbare =>
    -- the `*` that was added is passed over
    simp only [Bool.and_eq_true, Option.isNone_iff_eq_none, List.isEmpty_iff] at hbare
    obtain ⟨⟨⟨-, helement⟩, hclasses⟩, hattrs⟩ := hbare
    have hstar : lexemes ('*' :: ((renderNots u.nots).toList ++ rest)) = written u ++ lexemes rest := by
      rw [lexemes_star, hlexemes]
      simp [written, writtenOwn, writtenMarks, helement, hclasses, hattrs]
    simpa [writtenMarks, hclasses, hattrs] using hstar
  · rw [lexemes_own hu.own htame hapart, hlexemes, written, List.append_assoc]

/-! ### Folding them -/

/-- The lexemes change the innermost selector as `f` does. -/
def Edits (ls : List Lexeme) (f : Selector → Selector) : Prop :=
  (∀ s, (f s).nots = s.nots) ∧ ∀ p : Progress, p.run ls = .ok (p.edit f)

theorem edits_nil : Edits [] id := by
  refine ⟨fun s => rfl, fun p => ?_⟩
  rw [run_nil]
  obtain ⟨before, last, -, hnots, hedit⟩ | hedit := edit_cases p
  · rw [hedit, id, ← hnots]
    simp
  · rw [hedit, id]

theorem Edits.cons (h : Adds t f) (h' : Edits ls g) : Edits (t :: ls) (g ∘ f) := by
  refine ⟨fun s => (h'.1 (f s)).trans (h.nots s), fun p => ?_⟩
  refine run_cons_iff.2 ⟨_, step_of_adds h p, ?_⟩
  rw [h'.2, edit_edit h.nots]

theorem Edits.append (h : Edits ls f) (h' : Edits ls' g) : Edits (ls ++ ls') (g ∘ f) := by
  refine ⟨fun s => (h'.1 (f s)).trans (h.1 s), fun p => ?_⟩
  refine run_append_iff.2 ⟨_, h.2 p, ?_⟩
  rw [h'.2, edit_edit h.1]

theorem edits_classes {classes : List String} (h : ∀ name ∈ classes, lower name = name) :
    Edits (classes.map .cls) fun u => { u with classes := u.classes ++ classes } := by
  induction classes with
  | nil =>
    simp only [List.append_nil, eta]
    exact edits_nil
  | cons name classes ih =>
    obtain ⟨hname, h⟩ := List.forall_mem_cons.1 h
    have hcons := (ih h).cons (Adds.cls name)
    simpa [Function.comp_def, addClass, hname] using hcons

theorem edits_attrs {attrs : List (String × String)}
    (hnames : ∀ a ∈ attrs, ∀ c ∈ a.1.toList, c ≠ '\\') (hvalues : ∀ a ∈ attrs, lower a.2 = a.2) :
    Edits (attrs.map fun a => .attr (escaped a.1) a.2) fun u =>
      { u with attrs := u.attrs ++ attrs } := by
  induction attrs with
  | nil =>
    simp only [List.append_nil, eta]
    exact edits_nil
  | cons a attrs ih =>
    obtain ⟨hname, hnames⟩ := List.forall_mem_cons.1 hnames
    obtain ⟨hvalue, hvalues⟩ := List.forall_mem_cons.1 hvalues
    have hcons := (ih hnames hvalues).cons (Adds.attr a.2 (unescape_escaped hname))
    simpa [Function.comp_def, addAttribute, hvalue] using hcons

/-- The own parts of a selector added to another one. -/
def addOwn (s u : Selector) : Selector :=
  { u with
    element := s.element.or u.element
    classes := u.classes ++ s.classes
    attrs := u.attrs ++ s.attrs }

theorem edits_writtenOwn (hs : s.Own cs) : Edits (writtenOwn s) (addOwn s) := by
  have hmarks := (edits_classes fun name hname => (hs.classes name hname).2).append
    (edits_attrs (fun a ha c hc => (hs.names a ha c hc).2) fun a ha => (hs.values a ha).1)
  unfold writtenOwn addOwn writtenMarks
  cases s.element with
  | none => simpa [Function.comp_def] using hmarks
  | some name => simpa [Function.comp_def, setElement] using hmarks.cons (Adds.element name)

theorem addOwn_empty (s : Selector) : addOwn s {} = { s with nots := [] } := by
  simp [addOwn]

theorem run_writtenNots (hnots : ∀ n ∈ nots, n.Own cs ∧ n.nots = []) (done : List Selector)
    (u : Selector) :
    (Progress.mk done u false).run (writtenNots nots) =
      .ok ⟨done, { u with nots := u.nots ++ nots }, false⟩ := by
  induction nots generalizing u with
  | nil =>
    simp only [List.append_nil, eta]
    exact run_nil _
  | cons n nots ih =>
    obtain ⟨⟨hown, hnil⟩, hnots⟩ := List.forall_mem_cons.1 hnots
    have hn : addOwn n {} = n := by
      rw [addOwn_empty, ← hnil, eta]
    have hinner : (Progress.mk done { u with nots := u.nots ++ [{}] } true).run (writtenOwn n) =
        .ok ⟨done, { u with nots := u.nots ++ [n] }, true⟩ := by
      rw [(edits_writtenOwn hown).2]
      simp [edit, hn]
    rw [writtenNots, List.flatMap_cons, List.cons_append, List.append_assoc, List.singleton_append]
    refine run_cons_iff.2 ⟨_, rfl, run_append_iff.2 ⟨_, hinner, run_cons_iff.2 ⟨_, rfl, ?_⟩⟩⟩
    simpa [writtenNots] using ih hnots { u with nots := u.nots ++ [n] }

theorem run_written (hu : u.Read cs) (done : List Selector) :
    (Progress.mk done {} false).run (written u) = .ok ⟨done, u, false⟩ := by
  refine run_append_iff.2 ⟨⟨done, { u with nots := [] }, false⟩, ?_, ?_⟩
  · rw [(edits_writtenOwn hu.own).2]
    simp [edit, addOwn_empty]
  · simpa using run_writtenNots hu.nots done { u with nots := [] }

/-! ### Lists of selectors -/

/-- Selectors that were read are written, joined by commas and read again, one after the other. -/
theorem run_joined (hne : sels ≠ []) (hread : ∀ s ∈ sels, ∃ u, s = complete u ∧ u.Read cs)
    (hattrs : ∀ s ∈ sels, ∀ a, s.Mentions a → a.1 ≠ "" ∧ IsBareValue a.2) (done : List Selector) :
    ∃ q, (Progress.mk done {} false).run (lexemes ([','].intercalate (sels.map (·.render.toList)))) =
      .ok q ∧ q.selectors = done ++ sels := by
  induction sels generalizing done with
  | nil => exact absurd rfl hne
  | cons s sels ih =>
    obtain ⟨⟨u, rfl, hu⟩, hreads⟩ := List.forall_mem_cons.1 hread
    obtain ⟨hs, hattrs⟩ := List.forall_mem_cons.1 hattrs
    have hfirst : ∀ rest, Apart rest →
        lexemes ((complete u).render.toList ++ rest) = written u ++ lexemes rest := fun rest =>
      lexemes_render hu fun a ha => hs a (mentions_complete_iff.2 ha)
    have hrun := run_written hu done
    cases sels with
    | nil =>
      refine ⟨⟨done, u, false⟩, ?_, rfl⟩
      rw [List.map_singleton, List.intercalate_singleton, ← List.append_nil (complete u).render.toList,
        hfirst [] apart_nil, lexemes_nil, List.append_nil]
      exact hrun
    | cons s' sels =>
      obtain ⟨q, hrest, hsels⟩ := ih (List.cons_ne_nil _ _) hreads hattrs (done ++ [complete u])
      refine ⟨q, ?_, by simp [hsels]⟩
      rw [List.map_cons, List.map_cons, List.intercalate_cons_cons, List.append_assoc,
        List.singleton_append, hfirst _ (apart_cons (by decide) _), lexemes_comma, run_append_iff]
      exact ⟨_, hrun, run_cons_iff.2 ⟨_, rfl, hrest⟩⟩

/-- If all attributes that a list of selectors mentions have names, and values without brackets and
quotes, then the texts of the selectors, joined by commas, are read as the same list. -/
theorem ofText_render {text : String} (h : ofText text = .ok sels)
    (hattrs : ∀ s ∈ sels, ∀ a, s.Mentions a → a.1 ≠ "" ∧ IsBareValue a.2) :
    ofText (",".intercalate (sels.map render)) = .ok sels := by
  have hne : sels ≠ [] := by
    obtain ⟨p, -, rfl⟩ := ofText_eq_ok_iff.1 h
    simp [selectors]
  obtain ⟨q, hrun, hsels⟩ := run_joined hne (fun s hs => read_of_mem_ofText h hs) hattrs []
  refine ofText_eq_ok_iff.2 ⟨q, ?_, hsels⟩
  rw [String.toList_intercalate, List.map_map]
  exact hrun

/-- Parts out of order, an identity, an escape, a quoted value and a `:not` part that is not closed. -/
theorem ofText_render_disordered :
    ofText "#I.B x[k\\$='V w'],:not(.A" =
        .ok [{ element := some "x", classes := ["b"], attrs := [("id", "i"), ("k$", "v w")] },
          { element := some "*", nots := [{ classes := ["a"] }] }] ∧
      ofText "x.b[id=i][k\\$=v w],*:not(.a)" =
        .ok [{ element := some "x", classes := ["b"], attrs := [("id", "i"), ("k$", "v w")] },
          { element := some "*", nots := [{ classes := ["a"] }] }] := by
  have hlexemes : lexemes "#I.B x[k\\$='V w'],:not(.A".toList =
      [.id "I", .cls "B", .element "x", .attr "k\\$" "V w", .comma, .notOpen, .cls "A"] := by
    decide +kernel
  have hread : ofText "#I.B x[k\\$='V w'],:not(.A" =
      .ok [{ element := some "x", classes := ["b"], attrs := [("id", "i"), ("k$", "v w")] },
        { element := some "*", nots := [{ classes := ["a"] }] }] := by
    rw [ofText, hlexemes]
    rfl
  have hrender : ",".intercalate
      (List.map render [{ element := some "x", classes := ["b"], attrs := [("id", "i"), ("k$", "v w")] },
        { element := some "*", nots := [{ classes := ["a"] }] }]) = "x.b[id=i][k\\$=v w],*:not(.a)" := by
    decide +kernel
  refine ⟨hread, hrender ▸ ofText_render hread ?_⟩
  intro s hs a ha
  rcases List.mem_pair.1 hs with rfl | rfl
  · rcases ha with h | ⟨h, -⟩
    · rcases List.mem_pair.1 h with rfl | rfl <;> exact ⟨by decide, by decide⟩
    · cases h
  · rcases ha with h | ⟨h, ha⟩
    · cases h
    · obtain rfl := List.mem_singleton.1 h
      rcases ha with h | ⟨h, -⟩ <;> cases h

end ComponentAtlas.Selector

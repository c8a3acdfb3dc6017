import ComponentAtlas.Proofs.Selector.Lexemes
import ComponentAtlas.Proofs.Text.LowerCase

/-!
# From lexemes to selectors

How the lexemes of a selector list are folded into selectors.

* `Adds`, `Progress.step_cases`: all that one lexeme can do;
* `Progress.run`, `Progress.run_comma_iff`: the selectors of a list are read one after the other, each
  from a new start;
* `Selector.Read`, `read_of_mem_ofText`: what selectors that were read from a text look like;
* `Selector.Mentions`, `mentioned_of_mem_lexemes`: no attribute is lost.
-/

namespace ComponentAtlas.Selector

open ComponentAtlas.Text

variable {cs : List Char} {t : Lexeme} {ls ls' : List Lexeme} {f g : Selector → Selector}
  {s n : Selector} {p q : Progress} {a : String × String}

/-! ### One lexeme -/

/-- The lexeme adds a part to the innermost selector, as `f` does. -/
inductive Adds : Lexeme → (Selector → Selector) → Prop
  | element (name : String) : Adds (.element name) (·.setElement name)
  | id (name : String) : Adds (.id name) (·.addAttribute "id" name)
  | cls (name : String) : Adds (.cls name) (·.addClass name)
  | attr {written name : String} (value : String) (h : unescape written = .ok name) :
    Adds (.attr written value) (·.addAttribute name value)

namespace Progress

theorem step_of_adds (h : Adds t f) (p : Progress) : p.step t = .ok (p.edit f) := by
  cases h with
  | attr value hname => rw [step, hname]; rfl
  | _ => rfl

theorem step_cases (h : p.step t = .ok q) :
    (∃ f, Adds t f ∧ q = p.edit f) ∨
      (t = .notOpen ∧ p.inNot = false ∧
        q = { p with inNot := true, current := { p.current with nots := p.current.nots ++ [{}] } }) ∨
      (t = .close ∧ q = { p with inNot := false }) ∨
      (t = .comma ∧ p.inNot = false ∧ q = { done := p.done ++ [complete p.current] }) := by
  cases t with
  | element name => exact .inl ⟨_, .element name, by cases h; rfl⟩
  | id name => exact .inl ⟨_, .id name, by cases h; rfl⟩
  | cls name => exact .inl ⟨_, .cls name, by cases h; rfl⟩
  | attr written value =>
    cases hname : unescape written with
    | error e => simp [step, hname] at h; cases h
    | ok name =>
      rw [step_of_adds (.attr value hname)] at h
      exact .inl ⟨_, .attr value hname, by cases h; rfl⟩
  | close => exact .inr (.inr (.inl ⟨rfl, by cases h; rfl⟩))
  | notOpen =>
    simp only [step] at h
    split at h
    · cases h
    · next hopen => exact .inr (.inl ⟨rfl, by simpa using hopen, by cases h; rfl⟩)
  | comma =>
    simp only [step] at h
    split at h
    · cases h
    · next hopen => exact .inr (.inr (.inr ⟨rfl, by simpa using hopen, by cases h; rfl⟩))

/-- The innermost selector is the last excluded one or the selector itself. -/
theorem edit_cases (p : Progress) :
    (∃ before last, p.inNot ∧ p.current.nots = before ++ [last] ∧
      ∀ f, p.edit f = { p with current := { p.current with nots := before ++ [f last] } }) ∨
      ∀ f, p.edit f = { p with current := f p.current } := by
  by_cases hnot : p.inNot
  · rcases List.eq_nil_or_concat p.current.nots with hnil | ⟨before, last, hlast⟩
    · exact .inr fun f => by simp [edit, hnot, hnil]
    · rw [List.concat_eq_append] at hlast
      exact .inl ⟨before, last, hnot, hlast, fun f => by simp [edit, hnot, hlast]⟩
  · exact .inr fun f => by simp [edit, hnot]

theorem edit_edit (hf : ∀ s, (f s).nots = s.nots) (p : Progress) :
    (p.edit f).edit g = p.edit (g ∘ f) := by
  rw [edit, edit, edit]
  by_cases hnot : p.inNot
  · cases hlast : p.current.nots.getLast? with
    | none => simp [hnot, hlast, hf]
    | some last => simp [hnot]
  · simp [hnot]

/-! ### Runs -/

/-- Some lexemes further. -/
def run (p : Progress) (ls : List Lexeme) : Except ReadError Progress := ls.foldlM step p

theorem run_nil (p : Progress) : p.run [] = .ok p := rfl

theorem run_cons_iff : p.run (t :: ls) = .ok q ↔ ∃ p', p.step t = .ok p' ∧ p'.run ls = .ok q := by
  simp only [run, List.foldlM_cons]
  cases p.step t with
  | error e => exact ⟨fun h => (nomatch h), fun ⟨_, h, _⟩ => (nomatch h)⟩
  | ok p' => exact ⟨fun h => ⟨p', rfl, h⟩, fun ⟨_, h, hrun⟩ => by cases h; exact hrun⟩

theorem run_append_iff : p.run (ls ++ ls') = .ok q ↔ ∃ p', p.run ls = .ok p' ∧ p'.run ls' = .ok q := by
  induction ls generalizing p with
  | nil => exact ⟨fun h => ⟨p, rfl, h⟩, fun ⟨_, h, hrun⟩ => by cases h; exact hrun⟩
  | cons t ls ih =>
    simp only [List.cons_append, run_cons_iff, ih]
    exact ⟨fun ⟨p', ht, r, hls, hls'⟩ => ⟨r, ⟨p', ht, hls⟩, hls'⟩,
      fun ⟨r, ⟨p', ht, hls⟩, hls'⟩ => ⟨p', ht, r, hls, hls'⟩⟩

/-- The same selector being read, behind other selectors. -/
def withDone (p : Progress) (done : List Selector) : Progress := { p with done := done }

theorem edit_withDone (p : Progress) (done : List Selector) :
    (p.withDone done).edit f = (p.edit f).withDone done := by
  by_cases hnot : p.inNot
  · cases hlast : p.current.nots.getLast? <;> simp [edit, withDone, hnot, hlast]
  · simp [edit, withDone, hnot]

theorem edit_done (p : Progress) (f : Selector → Selector) : (p.edit f).done = p.done := by
  obtain ⟨_, _, -, -, hedit⟩ | hedit := edit_cases p <;> rw [hedit]

/-- Up to the next comma the selectors in front play no part. -/
theorem step_withDone (ht : t ≠ .comma) (h : p.step t = .ok q) (done : List Selector) :
    (p.withDone done).step t = .ok (q.withDone done) ∧ q.done = p.done := by
  obtain ⟨f, hadds, rfl⟩ | ⟨rfl, hnot, rfl⟩ | ⟨rfl, rfl⟩ | ⟨rfl, -⟩ := step_cases h
  · exact ⟨by rw [step_of_adds hadds, edit_withDone], edit_done p f⟩
  · exact ⟨by simp [step, withDone, hnot], rfl⟩
  · exact ⟨rfl, rfl⟩
  · exact absurd rfl ht

theorem run_withDone (hls : .comma ∉ ls) (h : p.run ls = .ok q) (done : List Selector) :
    (p.withDone done).run ls = .ok (q.withDone done) ∧ q.done = p.done := by
  induction ls generalizing p with
  | nil =>
    cases h
    exact ⟨rfl, rfl⟩
  | cons t ls ih =>
    obtain ⟨ht, hls⟩ : t ≠ .comma ∧ .comma ∉ ls := by simpa [eq_comm] using hls
    obtain ⟨p', hstep, hrun⟩ := run_cons_iff.1 h
    obtain ⟨hstep', hdone⟩ := step_withDone ht hstep done
    obtain ⟨hrun', hdone'⟩ := ih hls hrun
    exact ⟨run_cons_iff.2 ⟨_, hstep', hrun'⟩, hdone'.trans hdone⟩

/-- What stands in front of a comma is read by itself; behind the comma everything starts anew. -/
theorem run_comma_iff {done : List Selector} (hls : .comma ∉ ls) :
    (Progress.mk done {} false).run (ls ++ .comma :: ls') = .ok q ↔
      ∃ s, (Progress.mk [] {} false).run ls = .ok ⟨[], s, false⟩ ∧
        (Progress.mk (done ++ [complete s]) {} false).run ls' = .ok q := by
  rw [run_append_iff]
  constructor
  · rintro ⟨⟨done', s, inNot⟩, hrun, hrest⟩
    obtain ⟨p', hcomma, hrest⟩ := run_cons_iff.1 hrest
    obtain ⟨hrun', hdone⟩ := run_withDone hls hrun []
    obtain ⟨f, hadds, -⟩ | ⟨h, -⟩ | ⟨h, -⟩ | ⟨-, hnot, rfl⟩ := step_cases hcomma
    · cases hadds
    · cases h
    · cases h
    · simp only at hdone hnot
      subst hdone hnot
      exact ⟨s, hrun', hrest⟩
  · rintro ⟨s, hrun, hrest⟩
    exact ⟨_, (run_withDone hls hrun done).1, run_cons_iff.2 ⟨_, rfl, hrest⟩⟩

/-- The selectors that have been read at the end of a list. -/
def selectors (p : Progress) : List Selector := p.done ++ [complete p.current]

end Progress

open ComponentAtlas.Selector.Progress

theorem ofText_eq_ok_iff {text : String} {sels : List Selector} :
    ofText text = .ok sels ↔
      ∃ p, (Progress.mk [] {} false).run (lexemes text.toList) = .ok p ∧ p.selectors = sels := by
  have hof : ofText text =
      (Progress.mk [] {} false).run (lexemes text.toList) >>= fun p => .ok p.selectors := rfl
  rw [hof]
  cases (Progress.mk [] {} false).run (lexemes text.toList) with
  | error e => exact ⟨fun h => (nomatch h), fun ⟨_, h, _⟩ => (nomatch h)⟩
  | ok p =>
    exact ⟨fun h => ⟨p, rfl, by cases h; rfl⟩, fun ⟨_, h, hsels⟩ => by cases h; rw [← hsels]; rfl⟩

/-! ### What is read -/

/-- Characters of an attribute name without escapes. -/
theorem mem_unescape {written name : String} (h : unescape written = .ok name) :
    ∀ c ∈ name.toList, c ∈ written.toList ∧ c ≠ '\\' := by
  have hgo : ∀ (cs : List Char) (escaping : Bool) (out : List Char),
      unescape.go written escaping out cs = .ok name →
        ∀ c ∈ name.toList, c ∈ out ∨ c ∈ cs ∧ c ≠ '\\' := by
    intro cs
    induction cs with
    | nil =>
      intro escaping out h c hc
      cases h
      exact .inl (by simpa using hc)
    | cons b cs ih =>
      intro escaping out h c hc
      rw [unescape.go] at h
      split at h
      · exact (ih _ _ h c hc).imp_right fun hmem => ⟨List.mem_cons_of_mem b hmem.1, hmem.2⟩
      · next hbackslash =>
        split at h
        · cases h
        · rcases ih _ _ h c hc with hout | hmem
          · rcases List.mem_cons.1 hout with rfl | hout
            · exact .inr ⟨List.mem_cons_self, by simpa using hbackslash⟩
            · exact .inl hout
          · exact .inr ⟨List.mem_cons_of_mem b hmem.1, hmem.2⟩
  intro c hc
  simpa using hgo _ _ _ h c hc

/-- The parts of a selector, `:not` parts apart, look like those of a selector that was read from
`cs`. -/
structure Own (cs : List Char) (s : Selector) : Prop where
  element : ∀ name ∈ s.element, IsName name
  classes : ∀ name ∈ s.classes, IsName name ∧ lower name = name
  names : ∀ a ∈ s.attrs, ∀ c ∈ a.1.toList, isAttrNameChar c ∧ c ≠ '\\'
  values : ∀ a ∈ s.attrs, lower a.2 = a.2 ∧ ∀ c ∈ a.2.toList, c ∈ cs ∨ isNameChar c

/-- A selector looks like one that was read from `cs`. -/
structure Read (cs : List Char) (s : Selector) : Prop where
  own : s.Own cs
  nots : ∀ n ∈ s.nots, n.Own cs ∧ n.nots = []

theorem own_empty (cs : List Char) : Own cs {} where
  element := by simp
  classes := by simp
  names := by simp
  values := by simp

theorem read_empty (cs : List Char) : Read cs {} where
  own := own_empty cs
  nots := by simp

theorem isName_lower {name : String} (h : IsName name) : IsName (lower name) := by
  refine ⟨toList_lower_ne_nil h.1, fun c hc => ?_⟩
  rcases mem_lower hc with hmem | hword
  · exact h.2 c hmem
  · simp [isNameChar, hword]

theorem Own.addAttribute {name value : String} (h : s.Own cs)
    (hname : ∀ c ∈ name.toList, isAttrNameChar c ∧ c ≠ '\\')
    (hvalue : ∀ c ∈ value.toList, c ∈ cs ∨ isNameChar c) : (s.addAttribute name value).Own cs where
  element := h.element
  classes := h.classes
  names := List.forall_mem_append.2 ⟨h.names, by simpa using hname⟩
  values := by
    refine List.forall_mem_append.2 ⟨h.values, ?_⟩
    simp only [List.mem_singleton, forall_eq]
    refine ⟨lower_lower value, fun c hc => ?_⟩
    rcases mem_lower hc with hmem | hword
    · exact hvalue c hmem
    · exact .inr (by simp [isNameChar, hword])

theorem Adds.nots (hadds : Adds t f) (s : Selector) : (f s).nots = s.nots := by
  cases hadds <;> rfl

/-- A lexeme of a text adds what was read from it. -/
theorem Adds.own (hadds : Adds t f) (ht : t.From cs) (h : s.Own cs) : (f s).Own cs := by
  cases hadds with
  | element name =>
    refine ⟨?_, h.classes, h.names, h.values⟩
    rintro _ ⟨rfl⟩
    exact ht
  | cls name =>
    refine ⟨h.element, List.forall_mem_append.2 ⟨h.classes, ?_⟩, h.names, h.values⟩
    simpa using ⟨isName_lower ht, lower_lower name⟩
  | id name =>
    have hid : ("id".toList.all fun c => isAttrNameChar c && c != '\\') = true := by decide
    refine h.addAttribute (fun c hc => ?_) fun c hc => .inr (ht.2 c hc)
    simpa using List.all_eq_true.1 hid c hc
  | attr value hname =>
    refine h.addAttribute (fun c hc => ?_) fun c hc => .inl (ht.2 c hc)
    obtain ⟨hmem, hbackslash⟩ := mem_unescape hname c hc
    exact ⟨ht.1.2 c hmem, hbackslash⟩

namespace Progress

/-- Everything was read from the text `cs`. -/
structure Sound (cs : List Char) (p : Progress) : Prop where
  done : ∀ s ∈ p.done, ∃ u, s = complete u ∧ Read cs u
  current : Read cs p.current

theorem Sound.step (hp : p.Sound cs) (ht : t.From cs) (h : p.step t = .ok q) : q.Sound cs := by
  obtain ⟨f, hadds, rfl⟩ | ⟨rfl, -, rfl⟩ | ⟨rfl, rfl⟩ | ⟨rfl, -, rfl⟩ := step_cases h
  · refine ⟨by rw [edit_done]; exact hp.done, ?_⟩
    obtain ⟨before, last, -, hnots, hedit⟩ | hedit := edit_cases p
    · rw [hedit]
      have hall := hp.current.nots
      rw [hnots, List.forall_mem_append] at hall
      obtain ⟨hlast, hlast'⟩ := hall.2 last (by simp)
      have hown := hp.current.own
      refine ⟨⟨hown.element, hown.classes, hown.names, hown.values⟩, ?_⟩
      refine List.forall_mem_append.2 ⟨hall.1, ?_⟩
      simpa using ⟨hadds.own ht hlast, (hadds.nots last).trans hlast'⟩
    · rw [hedit]
      exact ⟨hadds.own ht hp.current.own, by rw [hadds.nots]; exact hp.current.nots⟩
  · have hown := hp.current.own
    refine ⟨hp.done, ⟨hown.element, hown.classes, hown.names, hown.values⟩, ?_⟩
    refine List.forall_mem_append.2 ⟨hp.current.nots, ?_⟩
    simpa using own_empty cs
  · exact ⟨hp.done, hp.current⟩
  · refine ⟨List.forall_mem_append.2 ⟨hp.done, ?_⟩, read_empty cs⟩
    simpa using ⟨p.current, rfl, hp.current⟩

theorem Sound.run (hp : p.Sound cs) (hls : ∀ t ∈ ls, t.From cs) (h : p.run ls = .ok q) :
    q.Sound cs := by
  induction ls generalizing p with
  | nil =>
    cases h
    exact hp
  | cons t ls ih =>
    obtain ⟨p', hstep, hrun⟩ := run_cons_iff.1 h
    obtain ⟨ht, hls⟩ := List.forall_mem_cons.1 hls
    exact ih (hp.step ht hstep) hls hrun

end Progress

/-- Every selector of a list looks like what was read from the text, up to the `*` in front of `:not`
parts that stand alone. -/
theorem read_of_mem_ofText {text : String} {sels : List Selector} (h : ofText text = .ok sels)
    (hs : s ∈ sels) : ∃ u, s = complete u ∧ u.Read text.toList := by
  obtain ⟨p, hrun, rfl⟩ := ofText_eq_ok_iff.1 h
  have hstart : (Progress.mk [] {} false).Sound text.toList := ⟨by simp, read_empty _⟩
  have hsound := hstart.run (fun t ht => from_of_mem_lexemes ht) hrun
  rcases List.mem_append.1 hs with hdone | hlast
  · exact hsound.done s hdone
  · exact ⟨p.current, List.mem_singleton.1 hlast, hsound.current⟩

/-! ### Attributes -/

/-- The selector asks for the attribute, or one of its `:not` parts excludes it. -/
inductive Mentions : Selector → String × String → Prop
  | attr {s : Selector} {a : String × String} (h : a ∈ s.attrs) : Mentions s a
  | not {s n : Selector} {a : String × String} (hn : n ∈ s.nots) (h : Mentions n a) : Mentions s a

@[simp] theorem complete_attrs (s : Selector) : (complete s).attrs = s.attrs := by
  unfold complete
  split <;> rfl

@[simp] theorem complete_nots (s : Selector) : (complete s).nots = s.nots := by
  unfold complete
  split <;> rfl

/-- A selector with more attributes and more `:not` parts mentions more. -/
theorem Mentions.mono {s' : Selector} (h : s.Mentions a) (hattrs : s.attrs ⊆ s'.attrs)
    (hnots : s.nots ⊆ s'.nots) : s'.Mentions a := by
  cases h with
  | attr h => exact .attr (hattrs h)
  | not hn h => exact .not (hnots hn) h

theorem mentions_complete_iff : (complete s).Mentions a ↔ s.Mentions a := by
  constructor
  · exact fun h => h.mono (by simp) (by simp)
  · exact fun h => h.mono (by simp) (by simp)

/-- What a selector that was read mentions is an attribute of its own or of a `:not` part. -/
theorem Read.values_of_mentions (hs : s.Read cs) (h : s.Mentions a) :
    ∀ c ∈ a.2.toList, c ∈ cs ∨ isNameChar c := by
  cases h with
  | attr h => exact (hs.own.values a h).2
  | not hn h =>
    obtain ⟨hown, hnil⟩ := hs.nots _ hn
    cases h with
    | attr h => exact (hown.values a h).2
    | not hn' h => simp [hnil] at hn'

theorem Adds.attrs_subset (hadds : Adds t f) (s : Selector) : s.attrs ⊆ (f s).attrs := by
  cases hadds with
  | element name => exact List.Subset.refl _
  | cls name => exact List.Subset.refl _
  | id name => exact List.subset_append_left _ _
  | attr value h => exact List.subset_append_left _ _

namespace Progress

/-- One of the selectors mentions the attribute. -/
def Mentions (p : Progress) (a : String × String) : Prop := ∃ s ∈ p.selectors, s.Mentions a

theorem mentions_iff : p.Mentions a ↔ (∃ s ∈ p.done, s.Mentions a) ∨ p.current.Mentions a := by
  simp [Mentions, selectors, or_and_right, exists_or, mentions_complete_iff]

theorem Mentions.edit (hadds : Adds t f) (h : p.Mentions a) : (p.edit f).Mentions a := by
  rw [mentions_iff] at h ⊢
  rw [edit_done]
  refine h.imp_right fun h => ?_
  obtain ⟨before, last, -, hnots, hedit⟩ | hedit := edit_cases p
  · rw [hedit]
    cases h with
    | attr h => exact .attr h
    | not hn h =>
      rw [hnots, List.mem_append, List.mem_singleton] at hn
      rcases hn with hn | rfl
      · exact .not (List.mem_append_left _ hn) h
      · refine .not (List.mem_append_right _ (List.mem_singleton_self _)) ?_
        exact h.mono (hadds.attrs_subset _) (by simp [hadds.nots])
  · rw [hedit]
    exact h.mono (hadds.attrs_subset _) (by simp [hadds.nots])

theorem Mentions.step (hp : p.Mentions a) (h : p.step t = .ok q) : q.Mentions a := by
  obtain ⟨f, hadds, rfl⟩ | ⟨rfl, -, rfl⟩ | ⟨rfl, rfl⟩ | ⟨rfl, -, rfl⟩ := step_cases h
  · exact hp.edit hadds
  · rw [mentions_iff] at hp ⊢
    exact hp.imp_right fun h => h.mono (List.Subset.refl _) (List.subset_append_left _ _)
  · rw [mentions_iff] at hp ⊢
    exact hp
  · obtain ⟨s, hs, h⟩ := hp
    exact mentions_iff.2 (.inl ⟨s, hs, h⟩)

theorem Mentions.run (hp : p.Mentions a) (h : p.run ls = .ok q) : q.Mentions a := by
  induction ls generalizing p with
  | nil =>
    cases h
    exact hp
  | cons t ls ih =>
    obtain ⟨p', hstep, hrun⟩ := run_cons_iff.1 h
    exact ih (hp.step hstep) hrun

theorem mentions_edit_addAttribute (p : Progress) (name value : String) :
    (p.edit (·.addAttribute name value)).Mentions (name, lower value) := by
  refine mentions_iff.2 (.inr ?_)
  have hmem : ∀ s : Selector, (s.addAttribute name value).Mentions (name, lower value) :=
    fun s => .attr (List.mem_append_right _ (List.mem_singleton_self _))
  obtain ⟨before, last, -, -, hedit⟩ | hedit := edit_cases p
  · rw [hedit]
    exact .not (List.mem_append_right _ (List.mem_singleton_self _)) (hmem last)
  · rw [hedit]
    exact hmem p.current

end Progress

/-- The attributes of a text are mentioned by the selectors that are read from it. -/
theorem mentioned_of_mem_lexemes {text written value : String} {sels : List Selector}
    (h : ofText text = .ok sels) (hmem : .attr written value ∈ lexemes text.toList) :
    ∃ s ∈ sels, ∃ name, s.Mentions (name, lower value) := by
  obtain ⟨p, hrun, rfl⟩ := ofText_eq_ok_iff.1 h
  obtain ⟨before, after, hsplit⟩ := List.append_of_mem hmem
  rw [hsplit] at hrun
  obtain ⟨p', -, hrun⟩ := run_append_iff.1 hrun
  obtain ⟨p'', hstep, hrun⟩ := run_cons_iff.1 hrun
  obtain ⟨f, hadds, rfl⟩ | ⟨h, -⟩ | ⟨h, -⟩ | ⟨h, -⟩ := step_cases hstep
  · cases hadds with
    | @attr _ name _ hname =>
      obtain ⟨s, hs, hs'⟩ := (mentions_edit_addAttribute p' name value).run hrun
      exact ⟨s, hs, name, hs'⟩
  · cases h
  · cases h
  · cases h

end ComponentAtlas.Selector

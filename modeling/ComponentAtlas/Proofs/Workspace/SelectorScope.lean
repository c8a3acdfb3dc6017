import ComponentAtlas.Proofs.Selector.Progress
import ComponentAtlas.Workspace.Views

/-!
# The selector scope and the matcher

The selector scope of a component takes selector lists apart at every comma, while the matcher reads
them as lexemes, in which the value of an attribute may hold commas.

* `Workspace.selectorPieces`, `Workspace.selectorScope_eq`: the pieces of one selector list;
* `Selector.SplitAlike`: the pieces are the selectors that the matcher reads;
* `Selector.splitAlike_of_forall_not_holds`, `Selector.not_mem_of_splitAlike`: this is so exactly if no
  attribute value holds a comma;
* `Workspace.selectorScope_splits_iff`.
-/

namespace ComponentAtlas

open ComponentAtlas.Text

/-- The pieces of a selector list in the selector scope. -/
def Workspace.selectorPieces (text : String) : List String :=
  ((splitOn ',' text).map trimmed).filter (· ≠ "")

namespace Selector

open ComponentAtlas.Selector.Progress

variable {s : Selector} {sels : List Selector} {text : String} {cs : List Char} {q : Progress}

/-- Whether the selector has any part. -/
def hasParts (s : Selector) : Bool :=
  s.element.isSome || !s.classes.isEmpty || !s.attrs.isEmpty || !s.nots.isEmpty

/-- Each piece is read as one selector, and these are the given selectors, those without parts apart. -/
def SplitAlike (pieces : List String) (sels : List Selector) : Prop :=
  ∃ singles : List Selector, pieces.map ofText = singles.map (fun s => .ok [s]) ∧
    singles.filter hasParts = sels.filter hasParts

theorem hasParts_of_mentions {a : String × String} (h : s.Mentions a) : s.hasParts := by
  cases h with
  | attr h => simp [hasParts, List.ne_nil_of_mem h]
  | not hn h => simp [hasParts, List.ne_nil_of_mem hn]

/-- Where no attribute value holds a comma, the pieces between the commas are read one after the
other. -/
theorem read_pieces (hvalues : ∀ t ∈ lexemes cs, ¬ t.Holds ',') {done : List Selector}
    (h : (Progress.mk done {} false).run (lexemes cs) = .ok q) :
    ∃ singles : List Selector, q.selectors = done ++ singles ∧
      (pieces (· == ',') cs).map (fun w => ofText (String.ofList w)) =
        singles.map (fun s => .ok [s]) := by
  induction hlength : cs.length using Nat.strong_induction_on generalizing cs done with
  | _ n ih =>
    subst hlength
    by_cases hmem : ',' ∈ cs
    · obtain ⟨as, bs, rfl, has⟩ := List.eq_append_cons_of_mem hmem
      have hcut : lexemes (as ++ ',' :: bs) = lexemes as ++ .comma :: lexemes bs := by
        rw [lexemes_append (by decide) as bs fun t ht hholds => absurd hholds (hvalues t ht),
          lexemes_comma]
      have hfree : .comma ∉ lexemes as := fun hcomma => has (from_of_mem_lexemes hcomma)
      rw [hcut] at h hvalues
      obtain ⟨s, hfirst, hrest⟩ := (run_comma_iff hfree).1 h
      have hvalues' : ∀ t ∈ lexemes bs, ¬ t.Holds ',' := fun t ht => hvalues t (by simp [ht])
      obtain ⟨singles, hsels, hpieces⟩ := ih bs.length (by simp; omega) hvalues' hrest rfl
      have hone : ofText (String.ofList as) = .ok [complete s] :=
        ofText_eq_ok_iff.2 ⟨_, by rw [String.toList_ofList]; exact hfirst, rfl⟩
      have hword : ∀ a ∈ as, (a == ',') = false := fun a ha => by simpa using ne_of_mem_of_not_mem ha has
      refine ⟨complete s :: singles, by simp [hsels], ?_⟩
      rw [pieces_append hword rfl, List.map_cons, hone, hpieces, List.map_cons]
    · have hfree : .comma ∉ lexemes cs := fun hcomma => hmem (from_of_mem_lexemes hcomma)
      obtain ⟨hrun, hdone⟩ := run_withDone hfree h []
      have hone : ofText (String.ofList cs) = .ok [complete q.current] :=
        ofText_eq_ok_iff.2 ⟨_, by rw [String.toList_ofList]; exact hrun, rfl⟩
      have hword : ∀ c ∈ cs, (c == ',') = false := fun c hc => by simpa using ne_of_mem_of_not_mem hc hmem
      refine ⟨[complete q.current], by rw [selectors, hdone], ?_⟩
      rw [pieces_of_notMem hword, List.map_singleton, hone, List.map_singleton]

theorem ofText_trimmed (text : String) : ofText (trimmed text) = ofText text := by
  rw [ofText, ofText, trimmed, String.toList_ofList, lexemes_trim]

theorem ofText_empty : ofText "" = .ok [{}] :=
  ofText_eq_ok_iff.2 ⟨_, by rw [String.toList_empty, lexemes_nil]; rfl, rfl⟩

/-- Empty pieces stand for selectors without parts. -/
theorem splitAlike_filter {ws : List String} {singles : List Selector}
    (h : ws.map ofText = singles.map (fun s => .ok [s])) : SplitAlike (ws.filter (· ≠ "")) singles := by
  induction ws generalizing singles with
  | nil =>
    obtain rfl : singles = [] := by simpa using h
    exact ⟨[], rfl, rfl⟩
  | cons w ws ih =>
    cases singles with
    | nil => simp at h
    | cons s singles =>
      obtain ⟨hw, hws⟩ : ofText w = .ok [s] ∧ ws.map ofText = singles.map (fun s => .ok [s]) := by
        simpa using h
      obtain ⟨kept, hkept, hparts⟩ := ih hws
      by_cases hempty : w = ""
      · rw [hempty, ofText_empty] at hw
        cases hw
        exact ⟨kept, by simpa [hempty] using hkept, by simpa [hasParts] using hparts⟩
      · refine ⟨s :: kept, ?_, ?_⟩
        · rw [List.filter_cons_of_pos (by simpa using hempty), List.map_cons, hw, hkept, List.map_cons]
        · rw [List.filter_cons, List.filter_cons, hparts]

theorem splitAlike_of_forall_not_holds (h : ofText text = .ok sels)
    (hvalues : ∀ t ∈ lexemes text.toList, ¬ t.Holds ',') :
    SplitAlike (Workspace.selectorPieces text) sels := by
  obtain ⟨p, hrun, rfl⟩ := ofText_eq_ok_iff.1 h
  obtain ⟨singles, hsels, hpieces⟩ := read_pieces hvalues hrun
  rw [List.nil_append] at hsels
  have htrimmed : ((splitOn ',' text).map trimmed).map ofText = singles.map fun s => .ok [s] := by
    rw [← hpieces, splitOn, List.map_map, List.map_map]
    exact List.map_congr_left fun w _ => ofText_trimmed (String.ofList w)
  rw [hsels]
  exact splitAlike_filter htrimmed

/-- A piece holds no comma. -/
theorem not_mem_of_mem_selectorPieces {w : String} (h : w ∈ Workspace.selectorPieces text) :
    ',' ∉ w.toList := by
  obtain ⟨h, -⟩ := List.mem_filter.1 h
  obtain ⟨v, hv, rfl⟩ := List.mem_map.1 h
  obtain ⟨u, hu, rfl⟩ := List.mem_map.1 hv
  intro hcomma
  rw [trimmed, String.toList_ofList, String.toList_ofList] at hcomma
  simpa using (pieces_spec text.toList).2 u hu ',' (trim_subset u hcomma)

theorem not_mem_of_splitAlike {a : String × String} (h : SplitAlike (Workspace.selectorPieces text) sels)
    (hs : s ∈ sels) (ha : s.Mentions a) : ',' ∉ a.2.toList := by
  obtain ⟨singles, hpieces, hparts⟩ := h
  have hmem : s ∈ singles := by
    have hkept : s ∈ sels.filter hasParts := List.mem_filter.2 ⟨hs, hasParts_of_mentions ha⟩
    rw [← hparts] at hkept
    exact List.mem_of_mem_filter hkept
  have hread : .ok [s] ∈ (Workspace.selectorPieces text).map ofText := by
    rw [hpieces]
    exact List.mem_map_of_mem hmem
  obtain ⟨w, hw, hone⟩ := List.mem_map.1 hread
  obtain ⟨u, rfl, hu⟩ := read_of_mem_ofText hone List.mem_cons_self
  intro hcomma
  rcases hu.values_of_mentions (mentions_complete_iff.1 ha) ',' hcomma with hin | hname
  · exact not_mem_of_mem_selectorPieces hw hin
  · exact absurd hname (by decide)

end Selector

namespace Workspace

open Selector

theorem selectorScope_eq (s : Symbol) :
    selectorScope s = do
      let scope := (← componentScope s).getD {}
      return (scope.directives.filterMap (·.selector)).flatMap selectorPieces := by
  simp only [selectorScope, List.filter_flatMap]
  rfl

/-- The selector scope of a component consists of the pieces of the selector lists in its scope. The
pieces of a list are the selectors that the matcher reads exactly if no attribute value, not even inside
of `:not`, holds a comma. -/
theorem selectorScope_splits_iff {text : String} {sels : List Selector} (h : ofText text = .ok sels) :
    (∀ s, selectorScope s = do
      let scope := (← componentScope s).getD {}
      return (scope.directives.filterMap (·.selector)).flatMap selectorPieces) ∧
    (SplitAlike (selectorPieces text) sels ↔ ∀ s ∈ sels, ∀ a, s.Mentions a → ',' ∉ a.2.toList) := by
  refine ⟨selectorScope_eq, fun hsplit s hs a ha => ?_, fun hvalues => ?_⟩
  · exact not_mem_of_splitAlike hsplit hs ha
  · refine splitAlike_of_forall_not_holds h ?_
    rintro _ ht ⟨written, value, rfl, hcomma⟩
    obtain ⟨s, hs, name, ha⟩ := mentioned_of_mem_lexemes h ht
    have hsettled : LetterCase.Settled ',' := LetterCase.settled_of_ascii (by decide) (by decide)
    exact hvalues s hs _ ha (mem_lower_of_settled hsettled hcomma)

/-- White space, a `:not` part that stands alone, a quoted value and an empty entry. -/
theorem selectorScope_splits_iff_spaced :
    ofText "b.Big , :not([k='v w'])," =
        .ok [{ element := some "b", classes := ["big"] },
          { element := some "*", nots := [{ attrs := [("k", "v w")] }] }, {}] ∧
      SplitAlike ["b.Big", ":not([k='v w'])"]
        [{ element := some "b", classes := ["big"] },
          { element := some "*", nots := [{ attrs := [("k", "v w")] }] }, {}] := by
  have hlexemes : lexemes "b.Big , :not([k='v w']),".toList =
      [.element "b", .cls "Big", .comma, .notOpen, .attr "k" "v w", .close, .comma] := by
    decide +kernel
  have hread : ofText "b.Big , :not([k='v w'])," =
      .ok [{ element := some "b", classes := ["big"] },
        { element := some "*", nots := [{ attrs := [("k", "v w")] }] }, {}] := by
    rw [ofText, hlexemes]
    rfl
  have hpieces : selectorPieces "b.Big , :not([k='v w'])," = ["b.Big", ":not([k='v w'])"] := by
    decide +kernel
  refine ⟨hread, hpieces ▸ (selectorScope_splits_iff hread).2.2 ?_⟩
  intro s hs a ha
  simp only [List.mem_cons, List.not_mem_nil, or_false] at hs
  rcases hs with rfl | rfl | rfl
  · rcases ha with h | ⟨h, -⟩ <;> cases h
  · rcases ha with h | ⟨h, ha⟩
    · cases h
    · obtain rfl := List.mem_singleton.1 h
      rcases ha with h | ⟨h, -⟩
      · obtain rfl := List.mem_singleton.1 h
        decide
      · cases h
  · rcases ha with h | ⟨h, -⟩ <;> cases h

/-- A list of two selectors in three pieces, where the first selector is taken apart. -/
theorem quotedComma_taken_apart :
    ofText "[a=\"x,y\"], b" = .ok [{ attrs := [("a", "x,y")] }, { element := some "b" }] ∧
      selectorPieces "[a=\"x,y\"], b" = ["[a=\"x", "y\"]", "b"] ∧
      ¬ SplitAlike (selectorPieces "[a=\"x,y\"], b")
        [{ attrs := [("a", "x,y")] }, { element := some "b" }] := by
  have hlexemes : lexemes "[a=\"x,y\"], b".toList = [.attr "a" "x,y", .comma, .element "b"] := by
    decide +kernel
  refine ⟨by rw [ofText, hlexemes]; rfl, by decide +kernel, fun hsplit => ?_⟩
  exact not_mem_of_splitAlike hsplit List.mem_cons_self (.attr List.mem_cons_self) (by decide)

end Workspace

end ComponentAtlas

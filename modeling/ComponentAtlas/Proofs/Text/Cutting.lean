import ComponentAtlas.Text.Chars
import Mathlib.Data.List.DropRight
import Mathlib.Data.List.TakeWhile

/-!
# Cutting texts

Facts about the ways in which readers cut texts.

* `takeWhile_append_stop`: a scan ends where the first other character stands;
* `trim_cons`, `trim_blank`, `trimEnd_append`: white space at the ends of a text;
* `pieces_of_notMem`, `pieces_append_cons`, `pieces_spec`: the pieces of a text between separators;
* `splitOnce_eq_some_iff`, `splitOnce_eq_none_iff`: a text cut at its first separator;
* `dropStart?_eq_some_iff`, `dropEnd?_eq_some_iff`: marks at the ends of a text.
-/

namespace ComponentAtlas.Text

variable {c : Char} {cs as bs rest : List Char} {p : Char → Bool}

/-! ### Scans -/

/-- A scan over characters that satisfy `p` ends where the first other character stands. -/
theorem takeWhile_append_stop (p : Char → Bool) (as rest : List Char) (has : ∀ a ∈ as, p a)
    (hrest : ∀ b ∈ rest.head?, p b = false) :
    (as ++ rest).takeWhile p = as ∧ (as ++ rest).dropWhile p = rest := by
  rw [List.takeWhile_append_of_pos has, List.dropWhile_append_of_pos has]
  cases rest with
  | nil => simp
  | cons b rest => simp [hrest b rfl]

/-- A scan does not see what stands behind a text, if it would stop there in any case. -/
theorem takeWhile_append_of_stop (as : List Char) (hrest : ∀ b ∈ rest.head?, p b = false) :
    (as ++ rest).takeWhile p = as.takeWhile p ∧
      (as ++ rest).dropWhile p = as.dropWhile p ++ rest := by
  induction as with
  | nil =>
    obtain ⟨htake, hdrop⟩ := takeWhile_append_stop p [] rest (by simp) hrest
    exact ⟨htake, hdrop⟩
  | cons a as ih =>
    cases ha : p a with
    | true => simp [ha, ih]
    | false => simp [ha]

/-! ### White space -/

theorem trim_cons (hc : isBlank c = false) : trim (c :: cs) = c :: trimEnd cs := by
  rw [trim, trimStart, List.dropWhile_cons_of_neg (by simp [hc]), trimEnd, trimEnd, List.reverse_cons,
    List.dropWhile_append, List.dropWhile_cons_of_neg (by simp [hc])]
  split
  · rename_i hnil
    simp [List.isEmpty_iff.1 hnil]
  · simp

theorem trim_blank (hc : isBlank c) (cs : List Char) : trim (c :: cs) = trim cs := by
  rw [trim, trimStart, List.dropWhile_cons_of_pos hc]
  rfl

theorem trimEnd_blank (hc : isBlank c) (cs : List Char) : trimEnd (cs ++ [c]) = trimEnd cs :=
  List.rdropWhile_concat_pos isBlank cs c hc

theorem trimEnd_append (hc : isBlank c = false) (as bs : List Char) :
    trimEnd (as ++ c :: bs) = as ++ c :: trimEnd bs := by
  have hcons : (bs.reverse ++ [c]).dropWhile isBlank = bs.reverse.dropWhile isBlank ++ [c] := by
    rw [List.dropWhile_append, List.dropWhile_cons_of_neg (by simp [hc])]
    split
    · rename_i hnil
      simp [List.isEmpty_iff.1 hnil]
    · rfl
  have hne : ((bs.reverse ++ [c]).dropWhile isBlank).isEmpty = false := by simp [hcons]
  rw [trimEnd, List.reverse_append, List.reverse_cons, List.dropWhile_append, hne, hcons, trimEnd]
  simp

theorem trimEnd_trimEnd (cs : List Char) : trimEnd (trimEnd cs) = trimEnd cs :=
  List.rdropWhile_idempotent isBlank cs

theorem trim_trimEnd (cs : List Char) : trim (trimEnd cs) = trim cs := by
  induction cs with
  | nil => rfl
  | cons c cs ih =>
    cases hc : isBlank c with
    | false =>
      have hcons : trimEnd (c :: cs) = c :: trimEnd cs := trimEnd_append hc [] cs
      rw [hcons, trim_cons hc, trim_cons hc, trimEnd_trimEnd]
    | true =>
      rw [trim_blank hc, ← ih, trimEnd, List.reverse_cons, List.dropWhile_append]
      split
      · rename_i hnil
        rw [List.dropWhile_cons_of_pos hc, trimEnd, List.isEmpty_iff.1 hnil]
        rfl
      · rw [List.reverse_concat, trim_blank hc]
        rfl

theorem length_trim_le (cs : List Char) : (trim cs).length ≤ cs.length := by
  rw [trim, trimEnd, List.length_reverse]
  refine Nat.le_trans (List.dropWhile_suffix isBlank).length_le ?_
  rw [List.length_reverse]
  exact (List.dropWhile_suffix isBlank).length_le

theorem trim_subset (cs : List Char) : trim cs ⊆ cs := by
  intro c hc
  rw [trim, trimEnd, List.mem_reverse] at hc
  have hc' := (List.dropWhile_suffix isBlank).subset hc
  rw [List.mem_reverse] at hc'
  exact (List.dropWhile_suffix isBlank).subset hc'

theorem isBlank_of_trim (h : trim (c :: cs) = c :: cs) : isBlank c = false := by
  by_contra hc
  rw [trim_blank (by simpa using hc)] at h
  have := length_trim_le cs
  rw [h, List.length_cons] at this
  omega

theorem trimEnd_of_trim (h : trim as = as) : trimEnd as = as := by
  cases as with
  | nil => rfl
  | cons a as =>
    have ha := isBlank_of_trim h
    rw [trim_cons ha] at h
    rw [← h]
    exact (trimEnd_append ha [] (trimEnd as)).trans (by rw [trimEnd_trimEnd]; rfl)

/-- A text without white space at its ends. -/
theorem trim_eq_self_iff :
    trim cs = cs ↔ (∀ c ∈ cs.head?, isBlank c = false) ∧ ∀ c ∈ cs.getLast?, isBlank c = false := by
  have hend : trimEnd cs = cs ↔ ∀ c ∈ cs.getLast?, isBlank c = false := by
    rcases List.eq_nil_or_concat cs with rfl | ⟨as, a, rfl⟩
    · simp [trimEnd]
    · rw [List.concat_eq_append, trimEnd, ← List.rdropWhile, List.rdropWhile_eq_self_iff]
      simp
  constructor
  · intro h
    refine ⟨fun c hc => ?_, hend.1 (trimEnd_of_trim h)⟩
    obtain ⟨ds, rfl⟩ : ∃ ds, cs = c :: ds := by
      cases cs with
      | nil => cases hc
      | cons a ds => exact ⟨ds, by cases hc; rfl⟩
    exact isBlank_of_trim h
  · rintro ⟨hhead, hlast⟩
    cases cs with
    | nil => rfl
    | cons c cs => rw [trim, trimStart, List.dropWhile_cons_of_neg (by simp [hhead c rfl]), hend.2 hlast]

/-! ### The first separator -/

theorem splitOnce_eq_none_iff {sep : Char} : splitOnce sep cs = none ↔ sep ∉ cs := by
  induction cs with
  | nil => simp [splitOnce]
  | cons c cs ih =>
    by_cases hc : c = sep
    · simp [splitOnce, hc]
    · simp [splitOnce, hc, ih, Ne.symm hc]

theorem splitOnce_eq_some_iff {sep : Char} :
    splitOnce sep cs = some (as, bs) ↔ cs = as ++ sep :: bs ∧ sep ∉ as := by
  induction cs generalizing as with
  | nil => simp [splitOnce]
  | cons c cs ih =>
    by_cases hc : c = sep
    · cases as with
      | nil => simp [splitOnce, hc]
      | cons a as =>
        simp only [splitOnce, hc, beq_self_eq_true, if_true, List.cons_append, List.cons.injEq,
          List.mem_cons, not_or]
        exact ⟨fun h => (nomatch h), fun h => absurd h.1.1 h.2.1⟩
    · cases as with
      | nil => simp [splitOnce, hc]
      | cons a as =>
        have hsep : c = a → sep ≠ a := by
          rintro rfl
          exact Ne.symm hc
        simp [splitOnce, hc, ih]
        tauto

theorem splitOnce_append {sep : Char} (h : splitOnce sep cs = some (as, bs)) : cs = as ++ sep :: bs :=
  (splitOnce_eq_some_iff.1 h).1

/-! ### Pieces -/

theorem pieces_of_notMem (h : ∀ c ∈ cs, p c = false) : pieces p cs = [cs] := by
  induction cs with
  | nil => rfl
  | cons c cs ih =>
    rw [pieces, ih fun b hb => h b (List.mem_cons_of_mem c hb), if_neg (by simp [h c List.mem_cons_self])]

theorem pieces_spec (cs : List Char) : pieces p cs ≠ [] ∧ ∀ w ∈ pieces p cs, ∀ c ∈ w, p c = false := by
  induction cs with
  | nil => simp [pieces]
  | cons c cs ih =>
    rw [pieces]
    by_cases hc : p c
    · rw [if_pos hc]
      exact ⟨List.cons_ne_nil _ _, List.forall_mem_cons.2 ⟨by simp, ih.2⟩⟩
    · rw [if_neg hc]
      obtain ⟨w, ws, hcons⟩ := List.exists_cons_of_ne_nil ih.1
      obtain ⟨hw, hws⟩ := List.forall_mem_cons.1 (hcons ▸ ih.2)
      rw [hcons]
      refine ⟨List.cons_ne_nil _ _, List.forall_mem_cons.2 ⟨?_, hws⟩⟩
      exact List.forall_mem_cons.2 ⟨by simpa using hc, hw⟩

/-- A text is cut at each of its separators. -/
theorem pieces_append_cons (hc : p c) (as cs : List Char) :
    pieces p (as ++ c :: cs) = pieces p as ++ pieces p cs := by
  induction as with
  | nil =>
    show pieces p (c :: cs) = [] :: pieces p cs
    rw [pieces, if_pos hc]
  | cons a as ih =>
    rw [List.cons_append, pieces, ih, pieces]
    by_cases ha : p a
    · rw [if_pos ha, if_pos ha, List.cons_append]
    · rw [if_neg ha, if_neg ha]
      obtain ⟨w, ws, hcons⟩ := List.exists_cons_of_ne_nil (pieces_spec (p := p) as).1
      rw [hcons, List.cons_append]
      rfl

theorem pieces_append (has : ∀ a ∈ as, p a = false) (hc : p c) (cs : List Char) :
    pieces p (as ++ c :: cs) = as :: pieces p cs := by
  rw [pieces_append_cons hc, pieces_of_notMem has, List.singleton_append]

/-! ### Marks at the ends of a text -/

theorem dropEnd?_eq_some_iff {lit s rest : String} : dropEnd? lit s = some rest ↔ s = rest ++ lit := by
  constructor
  · intro h
    obtain ⟨r, hdrop, rfl⟩ := Option.map_eq_some_iff.1 h
    have hs := congrArg List.reverse (eq_append_of_dropLiteral? hdrop)
    rw [List.reverse_reverse, List.reverse_append, List.reverse_reverse] at hs
    apply String.toList_inj.1
    simpa using hs
  · rintro rfl
    have hdrop : dropLiteral? lit.toList.reverse (rest ++ lit).toList.reverse = some rest.toList.reverse :=
      dropLiteral?_eq_some_iff.2 (by simp)
    rw [dropEnd?, hdrop]
    simp

theorem dropStart?_eq_some_iff {lit s rest : String} : dropStart? lit s = some rest ↔ s = lit ++ rest := by
  constructor
  · intro h
    obtain ⟨r, hdrop, rfl⟩ := Option.map_eq_some_iff.1 h
    apply String.toList_inj.1
    simpa using eq_append_of_dropLiteral? hdrop
  · rintro rfl
    have hdrop : dropLiteral? lit.toList (lit ++ rest).toList = some rest.toList :=
      dropLiteral?_eq_some_iff.2 (by simp)
    rw [dropStart?, hdrop]
    simp

theorem startsWith_iff (s lit : String) : startsWith s lit ↔ lit.toList <+: s.toList := by
  rw [startsWith, Option.isSome_iff_exists]
  constructor
  · rintro ⟨rest, hrest⟩
    obtain rfl := dropStart?_eq_some_iff.1 hrest
    exact ⟨rest.toList, by simp⟩
  · rintro ⟨rest, hrest⟩
    refine ⟨String.ofList rest, dropStart?_eq_some_iff.2 (String.toList_inj.1 ?_)⟩
    simpa using hrest.symm

end ComponentAtlas.Text

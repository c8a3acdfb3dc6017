import ComponentAtlas.Style.Reading
import Mathlib.Data.List.Basic

/-!
# Balanced parts of a style sheet

The reader of a style sheet looks for braces and semicolons outside quotes and parentheses, and starts
this search anew behind each of them. The end of a block is found by one search over the whole block,
its content is read by others that start inside it. They agree because every part that is read leaves
the search for a closing brace where it was.

* `turn`: what a search does at one character; `splitTopFrom_cons`: a search, one turn at a time;
* `Clear`: a text at whose end a search is as at its beginning; `clear_of_splitTop`: what a search has
  passed over is such a text, and `clear_of_marks`: so is one without any of the `marks`;
* `Balanced`: a text that leaves the search for the end of a block where it was; `Balanced.block`: so
  does a block around such a text, and `balanced_of_blockBody`: the content of every block is one.
-/

namespace ComponentAtlas.Style

open ComponentAtlas.Text

/-! ### Turns of a search -/

/-- What a search does at a character. -/
inductive Turn
  /-- The search ends here. -/
  | ends
  | passes (depth : Int) (quote : Option Char)
  /-- The next character is passed over too. -/
  | escapes
  deriving DecidableEq

/-- What a search does at a character, outside or inside parentheses and quotes. -/
def turn (stops : List Char) (depth : Int) (quote : Option Char) (c : Char) : Turn :=
  match quote with
  | some q =>
    if c == q then .passes depth none
    else if c == '\\' then .escapes
    else .passes depth (some q)
  | none =>
    if c == '"' || c == '\'' then .passes depth (some c)
    else if c == '(' then .passes (depth + 1) none
    else if c == ')' then .passes (depth - 1) none
    else if depth == 0 && stops.contains c then .ends
    else .passes depth none

/-- The characters at which a search for them ends. -/
def IsMark (stops : List Char) (c : Char) : Prop :=
  c ∈ stops ∧ c ≠ '"' ∧ c ≠ '\'' ∧ c ≠ '(' ∧ c ≠ ')'

instance (stops : List Char) (c : Char) : Decidable (IsMark stops c) :=
  inferInstanceAs (Decidable (_ ∧ _ ∧ _ ∧ _ ∧ _))

variable {stops fewer as bs cs rest : List Char} {c s : Char} {depth depth' : Int}
  {quote quote' : Option Char}

theorem splitTopFrom_cons (stops : List Char) (depth : Int) (quote : Option Char) (c : Char) (cs : List Char) :
    splitTopFrom stops depth quote (c :: cs) =
      match turn stops depth quote c with
      | .ends => some ([], c, cs)
      | .passes depth quote => (splitTopFrom stops depth quote cs).map fun (a, s, b) => (c :: a, s, b)
      | .escapes =>
        match cs with
        | [] => none
        | d :: cs => (splitTopFrom stops depth quote cs).map fun (a, s, b) => (c :: d :: a, s, b) := by
  rw [splitTopFrom.eq_def]
  cases quote with
  | some q =>
    simp only [turn]
    split
    · rfl
    · split
      · cases cs <;> rfl
      · rfl
  | none =>
    simp only [turn]
    split
    · rfl
    · split
      · rfl
      · split
        · rfl
        · split <;> rfl

theorem turn_eq_ends : turn stops depth quote c = .ends ↔ depth = 0 ∧ quote = none ∧ IsMark stops c := by
  cases quote with
  | some q =>
    simp only [turn]
    split
    · simp
    · split <;> simp
  | none =>
    simp only [turn, IsMark]
    split
    · rename_i h
      simp only [Bool.or_eq_true, beq_iff_eq] at h
      rcases h with rfl | rfl <;> simp
    · split
      · simp_all
      · split <;> simp_all

/-- A search for fewer characters goes on where the other one does, and in the same way. -/
theorem turn_of_subset (hsub : fewer ⊆ stops) (h : turn stops depth quote c ≠ .ends) :
    turn fewer depth quote c = turn stops depth quote c := by
  cases quote with
  | some q => rfl
  | none =>
    simp only [turn] at h ⊢
    split
    · rfl
    · split
      · rfl
      · split
        · rfl
        · rename_i h1 h2 h3
          simp only [h1, h2, h3, Bool.false_eq_true, if_false] at h
          by_cases hstop : (depth == 0 && stops.contains c) = true
          · exact absurd (if_pos hstop) h
          · have hfewer : ¬ (depth == 0 && fewer.contains c) = true := by
              simp only [Bool.and_eq_true, List.contains_iff_mem] at hstop ⊢
              exact fun hf => hstop ⟨hf.1, hsub hf.2⟩
            rw [if_neg hstop, if_neg hfewer]

/-! ### Searches -/

/-- A search ends at one of its characters, and what it has passed over leaves every search for the same
characters, or for fewer, as at the start. -/
theorem splitTopFrom_resume (h : splitTopFrom stops depth quote cs = some (as, s, bs)) :
    IsMark stops s ∧ ∀ fewer ⊆ stops, ∀ rest, splitTopFrom fewer depth quote (as ++ rest) =
      (splitTopFrom fewer 0 none rest).map fun (x, t, y) => (as ++ x, t, y) := by
  induction hn : cs.length using Nat.strongRecOn generalizing depth quote cs as with
  | _ n ih =>
    subst hn
    cases cs with
    | nil => cases h
    | cons c cs =>
      rw [splitTopFrom_cons] at h
      cases hturn : turn stops depth quote c with
      | ends =>
        rw [hturn] at h
        obtain ⟨rfl, rfl, hmark⟩ := turn_eq_ends.1 hturn
        cases h
        exact ⟨hmark, fun fewer _ rest => by simp⟩
      | passes depth' quote' =>
        simp only [hturn] at h
        obtain ⟨⟨as', s', bs'⟩, hfound, heq⟩ := Option.map_eq_some_iff.1 h
        cases heq
        obtain ⟨hmark, hresume⟩ := ih cs.length (by simp) hfound rfl
        refine ⟨hmark, fun fewer hsub rest => ?_⟩
        have hfewer : turn fewer depth quote c = .passes depth' quote' := by
          rw [turn_of_subset hsub (by rw [hturn]; simp), hturn]
        rw [List.cons_append, splitTopFrom_cons, hfewer]
        simp only
        rw [hresume fewer hsub, Option.map_map]
        rfl
      | escapes =>
        simp only [hturn] at h
        cases cs with
        | nil => cases h
        | cons d cs =>
          obtain ⟨⟨as', s', bs'⟩, hfound, heq⟩ := Option.map_eq_some_iff.1 h
          cases heq
          obtain ⟨hmark, hresume⟩ := ih cs.length (by rw [List.length_cons, List.length_cons]; omega) hfound rfl
          refine ⟨hmark, fun fewer hsub rest => ?_⟩
          have hfewer : turn fewer depth quote c = .escapes := by
            rw [turn_of_subset hsub (by rw [hturn]; simp), hturn]
          rw [List.cons_append, splitTopFrom_cons, hfewer]
          simp only [List.cons_append]
          rw [hresume fewer hsub, Option.map_map]
          rfl

/-- A search for fewer characters finds nothing where the other one does not. -/
theorem splitTopFrom_none_of_subset (hsub : fewer ⊆ stops) (h : splitTopFrom stops depth quote cs = none) :
    splitTopFrom fewer depth quote cs = none := by
  induction hn : cs.length using Nat.strongRecOn generalizing depth quote cs with
  | _ n ih =>
    subst hn
    cases cs with
    | nil => rfl
    | cons c cs =>
      rw [splitTopFrom_cons] at h ⊢
      have hturn : turn stops depth quote c ≠ .ends := by
        intro hends
        rw [hends] at h
        cases h
      rw [turn_of_subset hsub hturn]
      cases hgo : turn stops depth quote c with
      | ends => exact absurd hgo hturn
      | passes depth' quote' =>
        simp only [hgo, Option.map_eq_none_iff] at h ⊢
        exact ih cs.length (by simp) h rfl
      | escapes =>
        cases cs with
        | nil => rfl
        | cons d cs =>
          simp only [hgo, Option.map_eq_none_iff] at h ⊢
          exact ih cs.length (by rw [List.length_cons, List.length_cons]; omega) h rfl

theorem splitTop_none_of_subset (hsub : fewer ⊆ stops) (h : splitTop stops cs = none) : splitTop fewer cs = none :=
  splitTopFrom_none_of_subset hsub h

/-- A text at whose end a search for some characters is as at its beginning. -/
def Clear (stops as : List Char) : Prop :=
  ∀ rest, splitTop stops (as ++ rest) = (splitTop stops rest).map fun (x, s, y) => (as ++ x, s, y)

theorem clear_nil (stops : List Char) : Clear stops [] := by
  intro rest
  simp

theorem Clear.append (has : Clear stops as) (hbs : Clear stops bs) : Clear stops (as ++ bs) := by
  intro rest
  rw [List.append_assoc, has, hbs, Option.map_map]
  simp [Function.comp_def]

/-- A character that means nothing to a search. -/
theorem clear_singleton (hstop : c ∉ stops) (hquote : c ≠ '"' ∧ c ≠ '\'') (hparen : c ≠ '(' ∧ c ≠ ')') :
    Clear stops [c] := by
  intro rest
  have hturn : turn stops 0 none c = .passes 0 none := by
    simp [turn, hstop, hquote, hparen]
  rw [List.singleton_append, splitTop, splitTopFrom_cons, hturn]
  rfl

/-- The characters that have a meaning to the reader wherever they stand. -/
def marks : List Char := ['\x7b', '\x7d', ';', '(', ')', '"', '\'']

theorem notMem_marks {p : Char → Bool} (hmarks : marks.all fun m => !p m) (hc : p c) : c ∉ marks := by
  intro hmem
  have := List.all_eq_true.1 hmarks c hmem
  simp [hc] at this

/-- A text without any of the marks means nothing to a search for some of them. -/
theorem clear_of_marks (hstops : stops ⊆ marks) (h : ∀ c ∈ as, c ∉ marks) : Clear stops as := by
  induction as with
  | nil => exact clear_nil stops
  | cons a as ih =>
    obtain ⟨ha, has⟩ := List.forall_mem_cons.1 h
    have hne : ∀ m ∈ marks, a ≠ m := by
      rintro m hm rfl
      exact ha hm
    have hclear : Clear stops [a] := clear_singleton (fun hstop => ha (hstops hstop))
      ⟨hne _ (by decide), hne _ (by decide)⟩ ⟨hne _ (by decide), hne _ (by decide)⟩
    exact hclear.append (ih has)

theorem clear_of_splitTop (hsub : fewer ⊆ stops) (h : splitTop stops cs = some (as, s, bs)) : Clear fewer as :=
  (splitTopFrom_resume h).2 fewer hsub

theorem isMark_of_splitTop (h : splitTop stops cs = some (as, s, bs)) : IsMark stops s :=
  (splitTopFrom_resume h).1

theorem splitTop_of_isMark (h : IsMark stops s) (bs : List Char) : splitTop stops (s :: bs) = some ([], s, bs) := by
  rw [splitTop, splitTopFrom_cons, turn_eq_ends.2 ⟨rfl, rfl, h⟩]

theorem Clear.splitTop_append (has : Clear stops as) (hs : IsMark stops s) (bs : List Char) :
    splitTop stops (as ++ s :: bs) = some (as, s, bs) := by
  rw [has, splitTop_of_isMark hs]
  simp

theorem Clear.splitTop_eq_none (has : Clear stops as) : splitTop stops as = none := by
  have hend := has []
  rwa [List.append_nil] at hend

/-! ### Blocks -/

/-- The characters that open and close blocks. -/
abbrev braces : List Char := ['\x7b', '\x7d']

/-- A text that leaves the search for the end of a block where it was. -/
def Balanced (as : List Char) : Prop :=
  ∀ (depth : ℕ) (rest : List Char),
    blockBody depth (as ++ rest) = (blockBody depth rest).map fun (x, y) => (as ++ x, y)

variable {body : List Char}

theorem blockBody_of_none (h : splitTop braces cs = none) (depth : ℕ) : blockBody depth cs = none := by
  rw [blockBody]
  split
  · rfl
  · simp_all

/-- A search for the end of a block goes on behind each brace. -/
theorem blockBody_of_some (h : splitTop braces cs = some (as, s, bs)) (depth : ℕ) :
    blockBody depth cs =
      if s == '\x7b' then (blockBody (depth + 1) bs).map fun (x, y) => (as ++ s :: x, y)
      else
        match depth with
        | 0 => some (as, bs)
        | depth + 1 => (blockBody depth bs).map fun (x, y) => (as ++ s :: x, y) := by
  rw [blockBody]
  split
  · simp_all
  · rename_i hfound
    cases h.symm.trans hfound
    rfl

theorem blockBody_open (h : splitTop braces cs = some (as, '\x7b', bs)) (depth : ℕ) :
    blockBody depth cs = (blockBody (depth + 1) bs).map fun (x, y) => (as ++ '\x7b' :: x, y) :=
  blockBody_of_some h depth

theorem blockBody_zero (h : splitTop braces cs = some (as, '\x7d', bs)) : blockBody 0 cs = some (as, bs) :=
  blockBody_of_some h 0

theorem blockBody_succ (h : splitTop braces cs = some (as, '\x7d', bs)) (depth : ℕ) :
    blockBody (depth + 1) cs = (blockBody depth bs).map fun (x, y) => (as ++ '\x7d' :: x, y) :=
  blockBody_of_some h (depth + 1)

theorem brace_of_splitTop (h : splitTop braces cs = some (as, s, bs)) : s = '\x7b' ∨ s = '\x7d' := by
  simpa using (isMark_of_splitTop h).1

theorem balanced_nil : Balanced [] := by
  intro depth rest
  simp

theorem Balanced.append (has : Balanced as) (hbs : Balanced bs) : Balanced (as ++ bs) := by
  intro depth rest
  rw [List.append_assoc, has, hbs, Option.map_map]
  simp [Function.comp_def]

theorem Clear.balanced (has : Clear braces as) : Balanced as := by
  intro depth rest
  have hsplit := has rest
  cases hrest : splitTop braces rest with
  | none =>
    rw [hrest] at hsplit
    rw [blockBody_of_none hsplit, blockBody_of_none hrest, Option.map_none]
  | some found =>
    obtain ⟨x, s, y⟩ := found
    rw [hrest] at hsplit
    rcases brace_of_splitTop hrest with rfl | rfl
    · rw [blockBody_open hsplit, blockBody_open hrest, Option.map_map]
      simp [Function.comp_def]
    · cases depth with
      | zero =>
        rw [blockBody_zero hsplit, blockBody_zero hrest]
        rfl
      | succ depth =>
        rw [blockBody_succ hsplit, blockBody_succ hrest, Option.map_map]
        simp [Function.comp_def]

/-- A block around a balanced text. -/
theorem Balanced.block (h : Balanced body) : Balanced ('\x7b' :: (body ++ ['\x7d'])) := by
  intro depth rest
  have hopen : splitTop braces ('\x7b' :: (body ++ '\x7d' :: rest)) = some ([], '\x7b', body ++ '\x7d' :: rest) :=
    splitTop_of_isMark (by decide) _
  have hclose : splitTop braces ('\x7d' :: rest) = some ([], '\x7d', rest) := splitTop_of_isMark (by decide) rest
  rw [List.cons_append, List.append_assoc, List.singleton_append, blockBody_open hopen, h, blockBody_succ hclose,
    Option.map_map, Option.map_map]
  simp [Function.comp_def]

/-- What is found inside a number of open blocks closes all but the last of them. -/
theorem blockBody_append {outer : ℕ} (h : blockBody outer cs = some (body, rest)) :
    cs = body ++ '\x7d' :: rest ∧ ∀ (depth : ℕ) (after : List Char), blockBody (depth + outer) (body ++ after) =
      (blockBody depth after).map fun (x, y) => (body ++ x, y) := by
  induction hn : cs.length using Nat.strongRecOn generalizing outer cs body with
  | _ n ih =>
    subst hn
    cases hfound : splitTop braces cs with
    | none =>
      rw [blockBody_of_none hfound] at h
      cases h
    | some found =>
      obtain ⟨as, s, bs⟩ := found
      have hlength := splitTop_length hfound
      have hclear := clear_of_splitTop (List.Subset.refl braces) hfound
      have happend : cs = as ++ s :: bs := splitTopFrom_append hfound
      rcases brace_of_splitTop hfound with rfl | rfl
      · rw [blockBody_open hfound] at h
        obtain ⟨⟨x, y⟩, hmore, heq⟩ := Option.map_eq_some_iff.1 h
        cases heq
        obtain ⟨hbs, hafter⟩ := ih bs.length (by omega) hmore rfl
        refine ⟨by rw [happend, hbs]; simp, fun depth after => ?_⟩
        have hsplit : splitTop braces (as ++ '\x7b' :: (x ++ after)) = some (as, '\x7b', x ++ after) :=
          hclear.splitTop_append (by decide) _
        rw [List.append_assoc, List.cons_append, blockBody_open hsplit, Nat.add_assoc, hafter, Option.map_map]
        simp [Function.comp_def]
      · cases outer with
        | zero =>
          rw [blockBody_zero hfound] at h
          cases h
          exact ⟨happend, fun depth after => hclear.balanced depth after⟩
        | succ outer =>
          rw [blockBody_succ hfound] at h
          obtain ⟨⟨x, y⟩, hmore, heq⟩ := Option.map_eq_some_iff.1 h
          cases heq
          obtain ⟨hbs, hafter⟩ := ih bs.length (by omega) hmore rfl
          refine ⟨by rw [happend, hbs]; simp, fun depth after => ?_⟩
          have hsplit : splitTop braces (as ++ '\x7d' :: (x ++ after)) = some (as, '\x7d', x ++ after) :=
            hclear.splitTop_append (by decide) _
          rw [List.append_assoc, List.cons_append, ← Nat.add_assoc, blockBody_succ hsplit, hafter, Option.map_map]
          simp [Function.comp_def]

/-- The content of a closed block is balanced. -/
theorem balanced_of_blockBody (h : blockBody 0 cs = some (body, rest)) : Balanced body :=
  (blockBody_append h).2

/-! ### Texts inside blocks -/

/-- A text that closes no block but those that it opens. -/
def Sealed (cs : List Char) : Prop := blockBody 0 cs = none

theorem sealed_nil : Sealed [] := blockBody_of_none rfl 0

theorem Balanced.sealed_append (has : Balanced as) : Sealed (as ++ bs) ↔ Sealed bs := by
  rw [Sealed, has, Option.map_eq_none_iff]
  rfl

theorem Balanced.sealed (has : Balanced as) : Sealed as := by
  rw [← List.append_nil as, has.sealed_append]
  exact sealed_nil

theorem Balanced.not_sealed (has : Balanced as) (rest : List Char) : ¬ Sealed (as ++ '\x7d' :: rest) := by
  rw [has.sealed_append, Sealed, blockBody_zero (splitTop_of_isMark (by decide) rest)]
  exact Option.some_ne_none _

theorem Balanced.openBlock_append (h : Balanced body) (rest : List Char) :
    openBlock (body ++ '\x7d' :: rest) = ⟨body, true, rest⟩ := by
  rw [openBlock, h, blockBody_zero (splitTop_of_isMark (by decide) rest)]
  simp

theorem Sealed.openBlock_eq (h : Sealed cs) : openBlock cs = ⟨cs, false, []⟩ := by
  rw [openBlock, h]

/-- Behind an opening brace stand a balanced text and the closing brace, or the block is not closed. -/
theorem openBlock_cases (cs : List Char) :
    (∃ body rest, cs = body ++ '\x7d' :: rest ∧ Balanced body) ∨ Sealed cs := by
  cases h : blockBody 0 cs with
  | none => exact .inr h
  | some found =>
    obtain ⟨body, rest⟩ := found
    exact .inl ⟨body, rest, (blockBody_append h).1, balanced_of_blockBody h⟩

theorem openBlock_body_append (cs : List Char) : ∃ tail, cs = (openBlock cs).body ++ tail := by
  rcases openBlock_cases cs with ⟨body, rest, rfl, hbody⟩ | hsealed
  · rw [hbody.openBlock_append]
    exact ⟨_, rfl⟩
  · rw [hsealed.openBlock_eq]
    exact ⟨[], by simp⟩

end ComponentAtlas.Style

import ComponentAtlas.Proofs.Template.Cuts
import ComponentAtlas.Proofs.Text.Cutting
import ComponentAtlas.Proofs.Text.LowerCase

/-!
# The clauses of `*` attributes

The forms of the clauses that the value of a `*` attribute is made of, with their texts, and how the
functions that cut the value treat these texts.

* `IsIdentifier`, `Balanced`, `IsExpression`: the parts of clauses;
* `KeyClause`, `Clause`, `WellFormed`: the forms of clauses, and which lists of them make up a value;
* `splitWord_append`, `afterKeyword_append`, `splitAlias_text`: cutting a clause;
* `clauses_value`: the value is cut into its clauses.
-/

namespace ComponentAtlas.Template.Microsyntax

open ComponentAtlas.Text ComponentAtlas.Template.Bytewise

variable {c : Char} {cs as bs rest tail : List Char} {e x : String}

/-! ### Parts of clauses -/

/-- A character of an identifier: an ASCII letter or digit, `_` or `$`. -/
def isIdentifierChar (c : Char) : Bool := c.isAlphanum || c == '_' || c == '$'

/-- A name in the value of a `*` attribute. -/
structure IsIdentifier (x : String) : Prop where
  ne_empty : x ≠ ""
  chars : ∀ c ∈ x.toList, isIdentifierChar c

instance : DecidablePred IsIdentifier := fun x =>
  decidable_of_iff (x ≠ "" ∧ x.toList.all isIdentifierChar)
    ⟨fun h => ⟨h.1, List.all_eq_true.1 h.2⟩, fun h => ⟨h.ne_empty, List.all_eq_true.2 h.chars⟩⟩

/-- The nesting depth and the open quote behind a character. There is none behind a separator outside
brackets and quotes. -/
def advance : Int × Option Char → Char → Option (Int × Option Char)
  | (depth, some quote), c => some (depth, if c == quote then none else some quote)
  | (depth, none), c =>
    if c == '\'' || c == '"' || c == '\u0060' then some (depth, some c)
    else if c == '(' || c == '[' || c == '\x7b' then some (depth + 1, none)
    else if c == ')' || c == ']' || c == '\x7d' then some (depth - 1, none)
    else if (c == ';' || c == ',') && depth == 0 then none
    else some (depth, none)

/-- Brackets and quotes are closed, and there are no separators outside of them. -/
def Balanced (cs : List Char) : Prop := cs.foldlM advance (0, none) = some (0, none)

instance : DecidablePred Balanced := fun _ => inferInstanceAs (Decidable (_ = _))

/-- An expression in the value of a `*` attribute. -/
structure IsExpression (e : String) : Prop where
  ne_empty : e ≠ ""
  trimmed : trim e.toList = e.toList
  balanced : Balanced e.toList
  no_alias : ¬ " as ".toList <:+: e.toList
  no_mark : ∀ c ∈ e.toList.head?, c ≠ ':' ∧ c ≠ '='
  no_keyword : ∀ word ∈ ["let", "as"], ∀ c, isBlank c → ¬ word.toList ++ [c] <+: e.toList

/-! ### Forms of clauses -/

/-- The text that gives a name to the value of an expression. -/
def aliasText : Option String → String
  | none => ""
  | some x => " as " ++ x

/-- A clause that begins with a key. -/
inductive KeyClause
  /-- `key value`, `key: value`, `key value as name` -/
  | bind (key : String) (colon : Bool) (value : String) (name : Option String)
  /-- `key as name` -/
  | capture (key name : String)

/-- A clause. -/
inductive Clause
  /-- `value`, `value as name` -/
  | expression (value : String) (name : Option String)
  /-- `let name`, `let name = source` -/
  | declare (name : String) (source : Option String)
  /-- `let name`, followed by a clause that begins with a key -/
  | declareKey (name : String) (clause : KeyClause)
  | key (clause : KeyClause)

/-- The text of a clause that begins with a key. -/
def KeyClause.text : KeyClause → String
  | .bind key colon value name => key ++ (if colon then ": " else " ") ++ (value ++ aliasText name)
  | .capture key name => key ++ " as " ++ name

/-- The text of a clause. -/
def Clause.text : Clause → String
  | .expression value name => value ++ aliasText name
  | .declare name none => "let " ++ name
  | .declare name (some source) => "let " ++ name ++ " = " ++ source
  | .declareKey name clause => "let " ++ name ++ " " ++ clause.text
  | .key clause => clause.text

/-- The value that consists of some clauses. -/
def valueText (clauses : List Clause) : String := "; ".intercalate (clauses.map Clause.text)

/-- The parts of the clause are what they should be, and the key is no keyword. -/
def KeyClause.WellFormed : KeyClause → Prop
  | .bind key _ value name =>
    (IsIdentifier key ∧ key ≠ "let" ∧ key ≠ "as") ∧ IsExpression value ∧ ∀ x ∈ name, IsIdentifier x
  | .capture key name => (IsIdentifier key ∧ key ≠ "let" ∧ key ≠ "as") ∧ IsIdentifier name

/-- The parts of the clause are what they should be. -/
def Clause.WellFormed : Clause → Prop
  | .expression value name => IsExpression value ∧ ∀ x ∈ name, IsIdentifier x
  | .declare name source => IsIdentifier name ∧ ∀ y ∈ source, IsIdentifier y
  | .declareKey name clause => IsIdentifier name ∧ clause.WellFormed
  | .key clause => clause.WellFormed

/-- The clause may stand at the start of a value, or behind other clauses. -/
def Clause.Fits (first : Bool) : Clause → Prop
  | .expression value _ => first = true ∧ value ≠ "let"
  | .key _ => first = false
  | _ => True

/-- The clauses make up a value. -/
structure WellFormed (clauses : List Clause) : Prop where
  ne_nil : clauses ≠ []
  head : ∀ c ∈ clauses.head?, c.Fits true
  tail : ∀ c ∈ clauses.tail, c.Fits false
  each : ∀ c ∈ clauses, c.WellFormed

/-! ### Characters -/

theorem isAscii_of_isIdentifierChar (h : isIdentifierChar c) : c.toNat < 0x80 := by
  simp only [isIdentifierChar, Bool.or_eq_true, beq_iff_eq] at h
  rcases h with (h | rfl) | rfl
  · exact of_decide_eq_true (Markup.Bytewise.isAscii_of_isAlphanum h)
  · decide
  · decide

theorem identifierChars_spec : ∀ n < 0x80, isIdentifierChar (Char.ofNat n) = false ∨
    isBlank (Char.ofNat n) = false ∧ isWordChar (Char.ofNat n) ∧ isAliasChar (Char.ofNat n) ∧
      Char.ofNat n ≠ ':' ∧ Char.ofNat n ≠ '=' ∧ advance (0, none) (Char.ofNat n) = some (0, none) := by
  decide +kernel

/-- What the cutting functions see in a character of an identifier. -/
theorem isIdentifierChar_spec (h : isIdentifierChar c) :
    isBlank c = false ∧ isWordChar c ∧ isAliasChar c ∧ c ≠ ':' ∧ c ≠ '=' ∧
      advance (0, none) c = some (0, none) := by
  have hspec := identifierChars_spec c.toNat (isAscii_of_isIdentifierChar h)
  rw [Char.ofNat_toNat, h] at hspec
  exact hspec.resolve_left Bool.noConfusion

namespace IsIdentifier

variable (hx : IsIdentifier x)
include hx

theorem toList_ne_nil : x.toList ≠ [] := fun h => hx.ne_empty (String.toList_eq_nil_iff.1 h)

theorem isBlank_eq_false : ∀ c ∈ x.toList, isBlank c = false := fun c hc =>
  (isIdentifierChar_spec (hx.chars c hc)).1

theorem isWordChar : ∀ c ∈ x.toList, isWordChar c := fun c hc =>
  (isIdentifierChar_spec (hx.chars c hc)).2.1

theorem trim_eq : trim x.toList = x.toList :=
  trim_eq_self_iff.2 ⟨fun c hc => hx.isBlank_eq_false c (List.mem_of_mem_head? hc),
    fun c hc => hx.isBlank_eq_false c (List.mem_of_mem_getLast? hc)⟩

theorem balanced : Balanced x.toList := by
  have hall : ∀ cs : List Char, (∀ c ∈ cs, isIdentifierChar c) → Balanced cs := by
    intro cs hcs
    induction cs with
    | nil => rfl
    | cons c cs ih =>
      obtain ⟨hc, hcs⟩ := List.forall_mem_cons.1 hcs
      rw [Balanced, List.foldlM_cons, (isIdentifierChar_spec hc).2.2.2.2.2]
      exact ih hcs
  exact hall x.toList hx.chars

end IsIdentifier

/-! ### Cutting a clause -/

/-- Texts with no white space at their ends, with anything between them. -/
theorem trim_append (has : trim as = as) (mid : List Char) (hbs : trim bs = bs) (hne : as ≠ [])
    (hne' : bs ≠ []) : trim (as ++ mid ++ bs) = as ++ mid ++ bs := by
  obtain ⟨a, as', rfl⟩ := List.exists_cons_of_ne_nil hne
  refine trim_eq_self_iff.2 ⟨(trim_eq_self_iff.1 has).1, ?_⟩
  rw [List.getLast?_append_of_ne_nil _ hne']
  exact (trim_eq_self_iff.1 hbs).2

theorem trimStart_cons (h : isBlank c = false) : trimStart (c :: cs) = c :: cs :=
  List.dropWhile_cons_of_neg (by simp [h])

theorem trimStart_of_trim (h : trim cs = cs) : trimStart cs = cs := by
  cases cs with
  | nil => rfl
  | cons c cs => exact trimStart_cons (isBlank_of_trim h)

theorem splitWord_append (has : ∀ a ∈ as, isWordChar a) (hrest : ∀ c ∈ rest.head?, isWordChar c = false) :
    splitWord (as ++ rest) = (as, rest) := by
  obtain ⟨htake, hdrop⟩ := takeWhile_append_stop isWordChar as rest has hrest
  rw [splitWord, htake, hdrop]

theorem afterKeyword_of_blank (word : String) (hc : isBlank c) (rest : List Char) :
    afterKeyword word (word.toList ++ c :: rest) = some (trimStart rest) := by
  rw [afterKeyword, dropLiteral?_eq_some_iff.2 rfl]
  exact if_pos hc

/-- A text that is not the keyword and does not go on behind it with white space. -/
theorem afterKeyword_append {word : String} (has : ∀ c, isBlank c → ¬ word.toList ++ [c] <+: as)
    (hne : as = word.toList → tail = []) (htail : ∀ d ∈ tail.head?, d ∉ word.toList) :
    afterKeyword word (as ++ tail) = none := by
  unfold afterKeyword
  split
  · next c rest hdrop =>
    refine if_neg fun hc => ?_
    rcases List.append_eq_append_iff.1 (eq_append_of_dropLiteral? hdrop) with
      ⟨ds, hword, htail'⟩ | ⟨ds, has', hrest⟩
    · cases ds with
      | nil =>
        rw [List.append_nil] at hword
        rw [hne hword.symm] at htail'
        cases htail'
      | cons d ds =>
        rw [htail'] at htail
        exact htail d rfl (by rw [hword]; simp)
    · cases ds with
      | nil =>
        rw [List.append_nil] at has'
        rw [hne has'] at hrest
        cases hrest
      | cons d ds =>
        cases hrest
        exact has c hc ⟨ds, by rw [has']; simp⟩
  · rfl

theorem no_keyword_of_isIdentifier (hx : IsIdentifier x) (word : String) :
    ∀ c, isBlank c → ¬ word.toList ++ [c] <+: x.toList := by
  intro c hc hprefix
  have hmem : c ∈ x.toList := hprefix.subset (by simp)
  simp [hx.isBlank_eq_false c hmem] at hc

theorem splitAtLast_eq_none {lit : List Char} (h : ¬ lit <:+: cs) : splitAtLast lit cs = none := by
  cases hlast : splitAtLast lit cs with
  | none => rfl
  | some parts => exact absurd ⟨parts.1, parts.2, (splitAtLast_append hlast).symm⟩ h

theorem splitAtLast_append_left {lit before behind : List Char} (as : List Char)
    (h : splitAtLast lit bs = some (before, behind)) :
    splitAtLast lit (as ++ bs) = some (as ++ before, behind) := by
  induction as with
  | nil => exact h
  | cons a as ih => simp [splitAtLast, ih]

/-- The name behind an ` as ` holds no other ` as `. -/
theorem splitAtLast_alias (hx : IsIdentifier x) :
    splitAtLast " as ".toList (" as " ++ x).toList = some ([], x.toList) := by
  have hblank : ' ' ∉ x.toList := fun hmem => absurd (hx.isBlank_eq_false ' ' hmem) (by decide)
  have hnone : ∀ cs, cs <:+ "as ".toList ++ x.toList → splitAtLast " as ".toList cs = none := by
    intro cs hcs
    refine splitAtLast_eq_none fun hin => ?_
    -- two blanks would have to stand in a text with one
    have hcount := (hin.trans hcs.isInfix).sublist.count_le ' '
    rw [List.count_append, List.count_eq_zero_of_not_mem hblank] at hcount
    exact absurd hcount (by decide)
  rw [String.toList_append]
  change splitAtLast " as ".toList (' ' :: ("as ".toList ++ x.toList)) = _
  rw [splitAtLast, hnone _ (List.suffix_refl _)]
  rfl

/-- An expression is told apart from the name that is given to its value. -/
theorem splitAlias_text {name : Option String} (he : IsExpression e)
    (hname : ∀ x ∈ name, IsIdentifier x) :
    splitAlias (e ++ aliasText name).toList = (e.toList, name.map String.toList) := by
  rw [String.toList_append]
  cases name with
  | none =>
    rw [aliasText, String.toList_empty, List.append_nil, splitAlias, splitAtLast_eq_none he.no_alias]
    rfl
  | some x =>
    have hx := hname x rfl
    have hsplit := splitAtLast_append_left e.toList (splitAtLast_alias hx)
    rw [List.append_nil] at hsplit
    have hall : x.toList.all isAliasChar := List.all_eq_true.2 fun c hc =>
      (isIdentifierChar_spec (hx.chars c hc)).2.2.1
    rw [aliasText, splitAlias, hsplit]
    simp [hx.trim_eq, hx.toList_ne_nil, hall, he.trimmed]

/-! ### Cutting a value -/

/-- A character belongs to the clause that has begun, unless it is a separator. -/
theorem clausesFrom_cons (depth : Int) (quote : Option Char) (a : Char) (cs : List Char) :
    clausesFrom depth quote (a :: cs) =
      match advance (depth, quote) a with
      | some (depth', quote') => prepend [a] (clausesFrom depth' quote' cs)
      | none => [] :: clausesFrom depth none cs := by
  cases quote with
  | some q =>
    rw [clausesFrom]
    by_cases hquote : a == q
    · simp only [advance, if_pos hquote]
      rfl
    · simp only [advance, if_neg hquote]
      rfl
  | none =>
    rw [clausesFrom]
    by_cases hquote : a == '\'' || a == '"' || a == '\u0060'
    · simp only [advance, if_pos hquote]
      rfl
    by_cases hopen : a == '(' || a == '[' || a == '\x7b'
    · simp only [advance, if_neg hquote, if_pos hopen]
      rfl
    by_cases hclose : a == ')' || a == ']' || a == '\x7d'
    · simp only [advance, if_neg hquote, if_neg hopen, if_pos hclose]
      rfl
    by_cases hends : (a == ';' || a == ',') && depth == 0
    · simp only [advance, if_neg hquote, if_neg hopen, if_neg hclose, if_pos hends]
    · simp only [advance, if_neg hquote, if_neg hopen, if_neg hclose, if_neg hends]
      rfl

/-- The scan over a text without separators goes on behind it, in the state that it has come to. -/
theorem clausesFrom_append {depth depth' : Int} {quote quote' : Option Char}
    (h : as.foldlM advance (depth, quote) = some (depth', quote')) (rest : List Char) :
    clausesFrom depth quote (as ++ rest) = prepend as (clausesFrom depth' quote' rest) := by
  induction as generalizing depth quote with
  | nil =>
    cases h
    rw [prepend_nil (clausesFrom_ne_nil _ _ _), List.nil_append]
  | cons a as ih =>
    obtain ⟨⟨depth₁, quote₁⟩, hadvance, hrest⟩ := Option.bind_eq_some_iff.1 h
    rw [List.cons_append, clausesFrom_cons, hadvance]
    exact (congrArg (prepend [a]) (ih hrest)).trans (prepend_append [a] as _).symm

theorem Balanced.append (has : Balanced as) (hbs : Balanced bs) : Balanced (as ++ bs) := by
  rw [Balanced, List.foldlM_append, has]
  exact hbs

theorem balanced_aliasText {name : Option String} (hname : ∀ x ∈ name, IsIdentifier x) :
    Balanced (aliasText name).toList := by
  cases name with
  | none => rfl
  | some x =>
    rw [aliasText, String.toList_append]
    exact Balanced.append (by decide) (hname x rfl).balanced

theorem KeyClause.WellFormed.balanced {k : KeyClause} (hk : k.WellFormed) : Balanced k.text.toList := by
  cases k with
  | bind key colon value name =>
    obtain ⟨⟨hkey, -⟩, hvalue, hname⟩ := hk
    rw [KeyClause.text, String.toList_append, String.toList_append, String.toList_append]
    refine (hkey.balanced.append ?_).append (hvalue.balanced.append (balanced_aliasText hname))
    cases colon <;> decide
  | capture key name =>
    obtain ⟨⟨hkey, -⟩, hname⟩ := hk
    rw [KeyClause.text, String.toList_append, String.toList_append]
    exact (hkey.balanced.append (by decide)).append hname.balanced

theorem Clause.WellFormed.balanced {k : Clause} (hk : k.WellFormed) : Balanced k.text.toList := by
  cases k with
  | expression value name =>
    rw [Clause.text, String.toList_append]
    exact hk.1.balanced.append (balanced_aliasText hk.2)
  | declare name source =>
    cases source with
    | none =>
      rw [Clause.text, String.toList_append]
      exact Balanced.append (by decide) hk.1.balanced
    | some y =>
      rw [Clause.text, String.toList_append, String.toList_append, String.toList_append]
      refine ((Balanced.append ?_ hk.1.balanced).append ?_).append (hk.2 y rfl).balanced <;> decide
  | declareKey name clause =>
    rw [Clause.text, String.toList_append, String.toList_append, String.toList_append]
    refine ((Balanced.append ?_ hk.1.balanced).append ?_).append hk.2.balanced <;> decide
  | key clause => exact KeyClause.WellFormed.balanced hk

theorem clausesFrom_balanced (has : Balanced as) (rest : List Char) :
    clausesFrom 0 none (as ++ ';' :: rest) = as :: clausesFrom 0 none rest := by
  rw [clausesFrom_append has]
  exact congrArg (· :: clausesFrom 0 none rest) (List.append_nil as)

theorem toList_intercalate_cons (sep s : String) (ss : List String) :
    (sep.intercalate (s :: ss)).toList = s.toList ++ ss.flatMap fun w => sep.toList ++ w.toList := by
  induction ss generalizing s with
  | nil => simp
  | cons w ss ih =>
    rw [String.intercalate_cons_cons, String.toList_append, ih, String.toList_append, List.flatMap_cons,
      List.append_assoc, List.append_assoc]

/-- The value is cut into its clauses, with a blank in front of all but the first one. -/
theorem clauses_value (c : Clause) (cs : List Clause) (hc : c.WellFormed)
    (hcs : ∀ k ∈ cs, k.WellFormed) :
    clauses (valueText (c :: cs)).toList = c.text.toList :: cs.map fun k => ' ' :: k.text.toList := by
  have hpad : ∀ (cs : List Clause) (as : List Char), Balanced as → (∀ k ∈ cs, k.WellFormed) →
      clausesFrom 0 none (as ++ cs.flatMap fun k => ';' :: ' ' :: k.text.toList) =
        as :: cs.map fun k => ' ' :: k.text.toList := by
    intro cs
    induction cs with
    | nil =>
      intro as has _
      rw [List.flatMap_nil, clausesFrom_append has]
      exact congrArg (fun w => [w]) (List.append_nil as)
    | cons k cs ih =>
      intro as has hcs
      obtain ⟨hk, hcs⟩ := List.forall_mem_cons.1 hcs
      have hpadded : Balanced ([' '] ++ k.text.toList) := Balanced.append (by decide) hk.balanced
      have hrest := ih (' ' :: k.text.toList) hpadded hcs
      rw [List.flatMap_cons, List.cons_append, clausesFrom_balanced has, hrest, List.map_cons]
  have hvalue : (valueText (c :: cs)).toList =
      c.text.toList ++ cs.flatMap fun k => ';' :: ' ' :: k.text.toList := by
    rw [valueText, List.map_cons, toList_intercalate_cons, List.flatMap_map]
    rfl
  rw [clauses, hvalue, hpad cs _ hc.balanced hcs]

end ComponentAtlas.Template.Microsyntax

import ComponentAtlas.Proofs.Style.Balance

/-!
# Printed style sheets

Style sheets written by a program: selectors with commas between them, declarations that end with
semicolons, at-rules with a semicolon or a block.

* `Rule.unplaced`: a rule without the places where its parts stand;
* `PlainText`: a text that is the same between blanks and holds none of some characters;
* `Rule.Plain`, `PlainRules`: the rules that can be printed;
* `Rule.print`, `printRules`: the text of rules;
* `blankComments_printRules`: there is no comment in it.
-/

namespace ComponentAtlas.Style

open ComponentAtlas.Text ComponentAtlas.Source

mutual

/-- A rule without the places where its parts stand. -/
def Rule.unplaced : Rule → Rule
  | .style selectors ds _ => .style selectors ds {}
  | .at name prelude none _ => .at name prelude none {}
  | .at name prelude (some block) _ => .at name prelude (some block.unplaced) {}

/-- A block without the places where its parts stand. -/
def Block.unplaced : Block → Block
  | .rules rules => .rules (unplacedAll rules)
  | .declarations ds => .declarations ds

/-- Rules without the places where their parts stand. -/
def unplacedAll : List Rule → List Rule
  | [] => []
  | r :: rules => r.unplaced :: unplacedAll rules

end

/-! ### Rules that can be printed -/

/-- A text that begins and ends with no white space, holds none of some characters and begins no
comment. -/
structure PlainText (marks : List Char) (s : String) : Prop where
  trimmed : trimmed s = s
  chars : ∀ c ∈ s.toList, c ∉ marks
  no_comment : contains s "/*" = false

/-- A property, a value without the mark of importance at its end, and whether it is important. -/
structure PlainDeclaration (d : Declaration) : Prop where
  nonempty : d.property ≠ ""
  property : PlainText (':' :: marks) d.property
  value : PlainText marks d.value
  unmarked : endsWith d.value "!important" = false

/-- Selectors of which the first is not the name of an at-rule. -/
structure PlainSelectors (ss : List String) : Prop where
  nonempty : ss ≠ []
  selectors : ∀ s ∈ ss, s ≠ "" ∧ PlainText (',' :: '[' :: ']' :: marks) s
  start : ∀ s ∈ ss.head?, s.toList.head? ≠ some '@'

/-- A name of letters, digits and dashes. -/
structure PlainAtName (name : String) : Prop where
  nonempty : name ≠ ""
  chars : ∀ c ∈ name.toList, isAtNameChar c

mutual

/-- A rule that can be printed. -/
def Rule.Plain : Rule → Prop
  | .style selectors ds _ => PlainSelectors selectors ∧ ∀ d ∈ ds, PlainDeclaration d
  | .at name prelude none _ => PlainAtName name ∧ PlainText marks prelude
  | .at name prelude (some block) _ => PlainAtName name ∧ PlainText marks prelude ∧ block.Plain name

/-- A block that can be printed in a rule of the given name, which decides what a block holds. -/
def Block.Plain (name : String) : Block → Prop
  | .rules rules => nestingNames.contains (asciiLower name) = true ∧ PlainRules rules
  | .declarations ds => nestingNames.contains (asciiLower name) = false ∧ ∀ d ∈ ds, PlainDeclaration d

/-- Rules that can be printed. -/
def PlainRules : List Rule → Prop
  | [] => True
  | r :: rules => r.Plain ∧ PlainRules rules

end

instance (marks : List Char) (s : String) : Decidable (PlainText marks s) :=
  have := s.toList.decidableBAll fun c => c ∉ marks
  decidable_of_iff (trimmed s = s ∧ (∀ c ∈ s.toList, c ∉ marks) ∧ contains s "/*" = false)
    ⟨fun ⟨h1, h2, h3⟩ => ⟨h1, h2, h3⟩, fun h => ⟨h.trimmed, h.chars, h.no_comment⟩⟩

instance (d : Declaration) : Decidable (PlainDeclaration d) :=
  decidable_of_iff (d.property ≠ "" ∧ PlainText (':' :: marks) d.property ∧ PlainText marks d.value ∧
      endsWith d.value "!important" = false)
    ⟨fun ⟨h1, h2, h3, h4⟩ => ⟨h1, h2, h3, h4⟩, fun h => ⟨h.nonempty, h.property, h.value, h.unmarked⟩⟩

instance (ss : List String) : Decidable (PlainSelectors ss) :=
  decidable_of_iff (ss ≠ [] ∧ (∀ s ∈ ss, s ≠ "" ∧ PlainText (',' :: '[' :: ']' :: marks) s) ∧
      ∀ s ∈ ss.head?, s.toList.head? ≠ some '@')
    ⟨fun ⟨h1, h2, h3⟩ => ⟨h1, h2, h3⟩, fun h => ⟨h.nonempty, h.selectors, h.start⟩⟩

instance (name : String) : Decidable (PlainAtName name) :=
  have := name.toList.decidableBAll fun c => isAtNameChar c = true
  decidable_of_iff (name ≠ "" ∧ ∀ c ∈ name.toList, isAtNameChar c)
    ⟨fun ⟨h1, h2⟩ => ⟨h1, h2⟩, fun h => ⟨h.nonempty, h.chars⟩⟩

mutual

instance Rule.decidablePlain : (r : Rule) → Decidable r.Plain
  | .style _ _ _ => inferInstanceAs (Decidable (_ ∧ _))
  | .at _ _ none _ => inferInstanceAs (Decidable (_ ∧ _))
  | .at name _ (some block) _ =>
    have := Block.decidablePlain name block
    inferInstanceAs (Decidable (_ ∧ _ ∧ _))

instance Block.decidablePlain (name : String) : (block : Block) → Decidable (block.Plain name)
  | .rules rules =>
    have := decidablePlainRules rules
    inferInstanceAs (Decidable (_ ∧ _))
  | .declarations _ => inferInstanceAs (Decidable (_ ∧ _))

instance decidablePlainRules : (rules : List Rule) → Decidable (PlainRules rules)
  | [] => inferInstanceAs (Decidable True)
  | r :: rules =>
    have := Rule.decidablePlain r
    have := decidablePlainRules rules
    inferInstanceAs (Decidable (_ ∧ _))

end

/-! ### Printing -/

/-- Selectors with commas between them. -/
def printSelectors : List String → List Char
  | [] => []
  | [s] => s.toList
  | s :: ss => s.toList ++ ',' :: ' ' :: printSelectors ss

/-- A declaration without its semicolon. -/
def Declaration.written (d : Declaration) : List Char :=
  d.property.toList ++ ':' :: ' ' :: (d.value.toList ++ if d.important then " !important".toList else [])

/-- A declaration with its semicolon and the blank behind it. -/
def printDeclaration (d : Declaration) : List Char := d.written ++ [';', ' ']

mutual

/-- The text of a rule. -/
def Rule.print (gap : List Char) : Rule → List Char
  | .style selectors ds _ =>
    printSelectors selectors ++ ' ' :: '\x7b' :: ' ' :: (ds.flatMap printDeclaration ++ ['\x7d'])
  | .at name prelude none _ => '@' :: (name.toList ++ ' ' :: (prelude.toList ++ [';']))
  | .at name prelude (some block) _ =>
    '@' :: (name.toList ++ ' ' :: (prelude.toList ++ ' ' :: '\x7b' :: ' ' :: (block.print gap ++ ['\x7d'])))

/-- The content of a block. -/
def Block.print (gap : List Char) : Block → List Char
  | .rules rules => printRules gap rules
  | .declarations ds => ds.flatMap printDeclaration

/-- The text of rules, each followed by a gap. -/
def printRules (gap : List Char) : List Rule → List Char
  | [] => []
  | r :: rules => r.print gap ++ (gap ++ printRules gap rules)

end

/-! ### Comments -/

/-- A text in which no comment begins. -/
def Uncommented (cs : List Char) : Prop := containsLiteral ['/', '*'] cs = false

instance (cs : List Char) : Decidable (Uncommented cs) := inferInstanceAs (Decidable (_ = _))

variable {c : Char} {cs as bs rest gap : List Char} {name : String} {ss : List String} {ds : List Declaration}

theorem uncommented_nil : Uncommented [] := rfl

theorem uncommented_cons (hc : c ≠ '/') : Uncommented (c :: cs) ↔ Uncommented cs := by
  have hslash : ('/' == c) = false := by simpa using Ne.symm hc
  simp [Uncommented, containsLiteral, dropLiteral?, hslash]

/-- A comment begins on one side of a character that cannot be its second one. -/
theorem uncommented_append (hc : c ≠ '*') : Uncommented (as ++ c :: bs) ↔ Uncommented as ∧ Uncommented (c :: bs) := by
  have hstar : ('*' == c) = false := by simpa using Ne.symm hc
  induction as with
  | nil => simp [Uncommented, containsLiteral]
  | cons a as ih =>
    have hhere : (dropLiteral? ['/', '*'] (a :: (as ++ c :: bs))).isSome =
        (dropLiteral? ['/', '*'] (a :: as)).isSome := by
      cases as with
      | nil => simp [dropLiteral?, hstar]
      | cons b as =>
        simp only [dropLiteral?, List.cons_append]
        split
        · split <;> rfl
        · rfl
    simp only [Uncommented] at ih
    simp only [Uncommented, List.cons_append, containsLiteral, hhere, Bool.or_eq_false_iff, ih, and_assoc]

theorem uncommented_of_forall (h : ∀ c ∈ as, c ≠ '/') : Uncommented (as ++ rest) ↔ Uncommented rest := by
  induction as with
  | nil => rfl
  | cons a as ih =>
    rw [List.cons_append, uncommented_cons (h a List.mem_cons_self), ih fun c hc => h c (List.mem_cons_of_mem _ hc)]

theorem blankComments_of_uncommented (h : Uncommented cs) : blankComments cs = cs := by
  induction cs with
  | nil => rw [blankComments]
  | cons c cs ih =>
    have hrest : Uncommented cs := by
      simp only [Uncommented, containsLiteral, Bool.or_eq_false_iff] at h
      exact h.2
    rw [blankComments]
    split
    · rename_i body after hcomment
      unfold comment? at hcomment
      split at hcomment
      · rename_i heq
        cases heq
        simp [Uncommented, containsLiteral, dropLiteral?] at h
      · cases hcomment
    · rw [ih hrest]

theorem PlainText.uncommented {marks : List Char} {s : String} (h : PlainText marks s) : Uncommented s.toList :=
  h.no_comment

theorem uncommented_printSelectors (h : ∀ s ∈ ss, Uncommented s.toList) : Uncommented (printSelectors ss) := by
  fun_induction printSelectors ss with
  | case1 => exact uncommented_nil
  | case2 s => exact h s List.mem_cons_self
  | case3 s ss hne ih =>
    rw [uncommented_append (by decide), uncommented_cons (by decide), uncommented_cons (by decide)]
    exact ⟨h s List.mem_cons_self, ih fun t ht => h t (List.mem_cons_of_mem _ ht)⟩

theorem PlainDeclaration.uncommented {d : Declaration} (h : PlainDeclaration d) : Uncommented d.written := by
  have hvalue : Uncommented (d.value.toList ++ if d.important then " !important".toList else []) := by
    split
    · exact (uncommented_append (by decide)).2 ⟨h.value.uncommented, by decide⟩
    · rw [List.append_nil]
      exact h.value.uncommented
  rw [Declaration.written, uncommented_append (by decide), uncommented_cons (by decide), uncommented_cons (by decide)]
  exact ⟨h.property.uncommented, hvalue⟩

theorem uncommented_declarations (h : ∀ d ∈ ds, PlainDeclaration d) (hrest : Uncommented rest) :
    Uncommented (ds.flatMap printDeclaration ++ rest) := by
  induction ds with
  | nil => exact hrest
  | cons d ds ih =>
    have hmore := ih fun e he => h e (List.mem_cons_of_mem _ he)
    simp only [List.flatMap_cons, printDeclaration, List.append_assoc, List.cons_append, List.nil_append]
    rw [uncommented_append (by decide), uncommented_cons (by decide), uncommented_cons (by decide)]
    exact ⟨(h d List.mem_cons_self).uncommented, hmore⟩

theorem PlainAtName.uncommented (h : PlainAtName name) : Uncommented (name.toList ++ rest) ↔ Uncommented rest := by
  refine uncommented_of_forall ?_
  rintro c hc rfl
  exact absurd (h.chars _ hc) (by decide)

mutual

theorem Rule.uncommented_print (hgap : ∀ c ∈ gap, isAsciiBlank c) :
    (r : Rule) → r.Plain → (rest : List Char) → Uncommented rest → Uncommented (r.print gap ++ rest)
  | .style selectors ds _, h, rest, hrest => by
    have hbody : Uncommented (ds.flatMap printDeclaration ++ '\x7d' :: rest) :=
      uncommented_declarations h.2 ((uncommented_cons (by decide)).2 hrest)
    simp only [Rule.print, List.append_assoc, List.cons_append, List.nil_append]
    rw [uncommented_append (by decide), uncommented_cons (by decide), uncommented_cons (by decide),
      uncommented_cons (by decide)]
    exact ⟨uncommented_printSelectors fun s hs => (h.1.selectors s hs).2.uncommented, hbody⟩
  | .at name prelude none _, h, rest, hrest => by
    simp only [Rule.print, List.append_assoc, List.cons_append, List.nil_append]
    rw [uncommented_cons (by decide), h.1.uncommented, uncommented_cons (by decide), uncommented_append (by decide),
      uncommented_cons (by decide)]
    exact ⟨h.2.uncommented, hrest⟩
  | .at name prelude (some block) _, h, rest, hrest => by
    have hbody := Block.uncommented_print hgap name block h.2.2 ('\x7d' :: rest)
      ((uncommented_cons (by decide)).2 hrest)
    simp only [Rule.print, List.append_assoc, List.cons_append, List.nil_append]
    rw [uncommented_cons (by decide), h.1.uncommented, uncommented_cons (by decide), uncommented_append (by decide),
      uncommented_cons (by decide), uncommented_cons (by decide), uncommented_cons (by decide)]
    exact ⟨h.2.1.uncommented, hbody⟩

theorem Block.uncommented_print (hgap : ∀ c ∈ gap, isAsciiBlank c) (name : String) :
    (block : Block) → block.Plain name → (rest : List Char) → Uncommented rest →
      Uncommented (block.print gap ++ rest)
  | .rules rules, h, rest, hrest => uncommented_printRules hgap rules h.2 rest hrest
  | .declarations _, h, _, hrest => uncommented_declarations h.2 hrest

theorem uncommented_printRules (hgap : ∀ c ∈ gap, isAsciiBlank c) :
    (rules : List Rule) → PlainRules rules → (rest : List Char) → Uncommented rest →
      Uncommented (printRules gap rules ++ rest)
  | [], _, _, hrest => hrest
  | r :: rules, h, rest, hrest => by
    have hmore := uncommented_printRules hgap rules h.2 rest hrest
    have hblank : Uncommented (gap ++ (printRules gap rules ++ rest)) := by
      refine (uncommented_of_forall ?_).2 hmore
      rintro c hc rfl
      exact absurd (hgap _ hc) (by decide)
    rw [printRules, List.append_assoc, List.append_assoc]
    exact Rule.uncommented_print hgap r h.1 _ hblank

end

theorem blankComments_printRules {rules : List Rule} (hgap : ∀ c ∈ gap, isAsciiBlank c) (h : PlainRules rules) :
    blankComments (printRules gap rules) = printRules gap rules := by
  have huncommented := uncommented_printRules hgap rules h [] uncommented_nil
  rw [List.append_nil] at huncommented
  exact blankComments_of_uncommented huncommented

end ComponentAtlas.Style

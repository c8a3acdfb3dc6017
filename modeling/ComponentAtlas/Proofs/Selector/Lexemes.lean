import ComponentAtlas.Proofs.Text.Cutting
import ComponentAtlas.Selector.Reading
import Mathlib.Data.List.Basic

/-!
# The lexemes of a selector list

What the scanner of selector lists makes of a text, seen from the characters of the text.

* `lexemes_blank`, `lexemes_comma`, `lexemes_star`: characters between the parts of selectors;
* `Lexeme.Plain`, `lexemes_text`: a lexeme as it is written, with other text behind it;
* `Lexeme.From`, `from_of_mem_lexemes`: what a text can yield;
* `lexemes_append`: a text can be cut in front of white space and commas, unless an attribute value
  stretches over the cut; `lexemes_trim`.
-/

namespace ComponentAtlas.Selector

open ComponentAtlas.Text

variable {c : Char} {cs rest tail : List Char} {t : Lexeme} {make : String → Lexeme}

/-! ### Scanning step by step -/

theorem lexemes_nil : lexemes [] = [] := by
  rw [lexemes]
  rfl

theorem lexemes_of_some (h : lexeme cs = some (t, rest)) : lexemes cs = t :: lexemes rest := by
  rw [lexemes]
  split
  · next t' rest' h' =>
    rw [h] at h'
    cases h'
    rfl
  · next h' => simp [h] at h'

theorem lexemes_of_none (h : lexeme (c :: cs) = none) : lexemes (c :: cs) = lexemes cs := by
  rw [lexemes]
  split
  · next h' => simp [h] at h'
  · rfl

theorem lexeme_notOpen (rest : List Char) :
    lexeme (":not(".toList ++ rest) = some (.notOpen, rest) := by
  unfold lexeme
  rw [dropLiteral?_eq_some_iff.2 rfl]

theorem lexeme_colon (cs : List Char) :
    lexeme (':' :: cs) = (dropLiteral? "not(".toList cs).map fun rest => (.notOpen, rest) := by
  have hlit : dropLiteral? ":not(".toList (':' :: cs) = dropLiteral? "not(".toList cs := rfl
  unfold lexeme
  rw [hlit]
  cases dropLiteral? "not(".toList cs <;> rfl

theorem lexeme_close (rest : List Char) : lexeme (')' :: rest) = some (.close, rest) := rfl

theorem lexeme_dot (rest : List Char) : lexeme ('.' :: rest) = namePart .cls rest := rfl

theorem lexeme_hash (rest : List Char) : lexeme ('#' :: rest) = namePart .id rest := rfl

theorem lexeme_bracket (rest : List Char) : lexeme ('[' :: rest) = attributePart rest := rfl

/-- Away from the marks of parts there are element names and commas. -/
theorem lexeme_of_unmarked (h : c ∉ ":.#[)".toList) :
    lexeme (c :: cs) = (namePart .element (c :: cs)).or (commaPart (c :: cs)) := by
  have hnot : dropLiteral? ":not(".toList (c :: cs) = none := by
    have hcolon : ':' ≠ c := fun heq => h (by simp [← heq])
    simp [dropLiteral?, hcolon]
  unfold lexeme
  rw [hnot]
  split <;> simp_all

/-- A scan for a name does not go beyond a text with other characters behind it. -/
theorem namePart_append (make : String → Lexeme) (cs : List Char)
    (hrest : ∀ c ∈ rest.head?, isNameChar c = false) :
    namePart make (cs ++ rest) = (namePart make cs).map fun x => (x.1, x.2 ++ rest) := by
  obtain ⟨htake, hdrop⟩ := takeWhile_append_of_stop cs hrest
  simp only [namePart, htake, hdrop]
  split <;> rfl

/-! ### Characters between selectors -/

/-- A character that stands between selectors: white space or a comma. -/
def isGap (c : Char) : Bool := isBlank c || c == ','

/-- The code points of the comma and of white space. -/
def gapRanges : List (ℕ × ℕ) :=
  [(0x09, 0x0D), (0x20, 0x20), (0x2C, 0x2C), (0x85, 0x85), (0xA0, 0xA0), (0x1680, 0x1680),
    (0x2000, 0x200A), (0x2028, 0x2029), (0x202F, 0x202F), (0x205F, 0x205F), (0x3000, 0x3000)]

theorem inRanges_of_isGap (h : isGap c) : inRanges gapRanges c.toNat := by
  simp only [isGap, isBlank, Bool.or_eq_true, Bool.and_eq_true, decide_eq_true_eq, beq_iff_eq] at h
  simp only [inRanges, gapRanges, List.any_cons, List.any_nil, Bool.or_eq_true, Bool.and_eq_true,
    decide_eq_true_eq]
  rcases h with h | rfl
  · omega
  · decide

theorem wordRanges_apart : (Classes.wordRanges.all fun w =>
    gapRanges.all fun g => Nat.blt w.2 g.1 || Nat.blt g.2 w.1) = true := by
  decide +kernel

theorem word_of_isGap (h : isGap c) : Classes.word c = false := by
  have hgap := inRanges_of_isGap h
  by_cases hascii : c.toNat < 0x80
  · have hword : ∀ n ∈ [9, 10, 11, 12, 13, 32, 44], Classes.word (Char.ofNat n) = false := by decide
    have hmem : c.toNat ∈ [9, 10, 11, 12, 13, 32, 44] := by
      simp only [inRanges, gapRanges, List.any_cons, List.any_nil, Bool.or_eq_true, Bool.and_eq_true,
        decide_eq_true_eq, Bool.false_eq_true, or_false] at hgap
      simp only [List.mem_cons, List.not_mem_nil, or_false]
      omega
    simpa using hword c.toNat hmem
  · rw [Classes.word, if_neg hascii]
    by_contra hword
    rw [Bool.not_eq_false] at hword
    obtain ⟨w, hw, hin⟩ := List.any_eq_true.1 hword
    obtain ⟨g, hg, hin'⟩ := List.any_eq_true.1 hgap
    have hapart := List.all_eq_true.1 (List.all_eq_true.1 wordRanges_apart w hw) g hg
    simp only [Bool.and_eq_true, decide_eq_true_eq, Bool.or_eq_true, Nat.blt_eq] at hin hin' hapart
    omega

/-- Such a character belongs to no name and is no mark. -/
theorem isGap_apart (h : isGap c) : isAttrNameChar c = false ∧ c ∉ ":not(.#[)]=\"'".toList := by
  have hmarks : ∀ m ∈ "-.*\\$:not(.#[)]=\"'".toList, ¬ isGap m := List.any_eq_false.1 (by decide)
  have hne : c ∉ "-.*\\$:not(.#[)]=\"'".toList := fun hmem => hmarks c hmem h
  simp only [isAttrNameChar, isNameChar, word_of_isGap h]
  simp_all

theorem isNameChar_of_isGap (h : isGap c) : isNameChar c = false := by
  have hattr := (isGap_apart h).1
  simp only [isAttrNameChar, Bool.or_eq_false_iff] at hattr
  exact hattr.1.1.1.1

theorem lexeme_of_isGap (h : isGap c) (cs : List Char) : lexeme (c :: cs) = commaPart (c :: cs) := by
  have hmark := (isGap_apart h).2
  rw [lexeme_of_unmarked (by simp_all), namePart,
    List.takeWhile_cons_of_neg (by simp [isNameChar_of_isGap h])]
  rfl

theorem commaPart_blank (h : isBlank c) (cs : List Char) : commaPart (c :: cs) = commaPart cs := by
  rw [commaPart, commaPart, List.dropWhile_cons_of_pos h]

theorem lexeme_of_commaPart {x : Lexeme × List Char} (h : commaPart cs = some x) :
    lexeme cs = some x := by
  cases cs with
  | nil => cases h
  | cons c cs =>
    rw [lexeme_of_isGap ?_, h]
    by_contra hgap
    obtain ⟨hblank, hcomma⟩ : isBlank c = false ∧ c ≠ ',' := by simpa [isGap] using hgap
    simp [commaPart, hblank, hcomma] at h

/-- White space in front of a text yields nothing. -/
theorem lexemes_blank (h : isBlank c) (cs : List Char) : lexemes (c :: cs) = lexemes cs := by
  have hlexeme : lexeme (c :: cs) = commaPart cs := by
    rw [lexeme_of_isGap (by simp [isGap, h]), commaPart_blank h]
  cases hcomma : commaPart cs with
  | none => exact lexemes_of_none (hlexeme.trans hcomma)
  | some x =>
    rw [lexemes_of_some (hlexeme.trans hcomma), lexemes_of_some (lexeme_of_commaPart hcomma)]

theorem lexemes_dropWhile_isBlank (cs : List Char) : lexemes (cs.dropWhile isBlank) = lexemes cs := by
  induction cs with
  | nil => rfl
  | cons c cs ih =>
    by_cases h : isBlank c
    · rw [List.dropWhile_cons_of_pos h, ih, lexemes_blank h]
    · rw [List.dropWhile_cons_of_neg h]

theorem lexemes_of_forall_isBlank (h : ∀ c ∈ cs, isBlank c) : lexemes cs = [] := by
  rw [← lexemes_dropWhile_isBlank, List.dropWhile_eq_nil_iff.2 h, lexemes_nil]

theorem lexemes_comma (cs : List Char) : lexemes (',' :: cs) = .comma :: lexemes cs := by
  have hcomma : commaPart (',' :: cs) = some (.comma, cs.dropWhile isBlank) := rfl
  rw [lexemes_of_some (lexeme_of_commaPart hcomma), lexemes_dropWhile_isBlank]

/-- The name that stands for every element is passed over. -/
theorem lexemes_star (cs : List Char) : lexemes ('*' :: cs) = lexemes cs := by
  refine lexemes_of_none ?_
  rw [lexeme_of_unmarked (by decide)]
  rfl

/-! ### Lexemes as they are written -/

/-- An element name, a class name or an identity. -/
def IsName (name : String) : Prop := name.toList ≠ [] ∧ ∀ c ∈ name.toList, isNameChar c

/-- An attribute name as it is written. -/
def IsAttrName (name : String) : Prop := name.toList ≠ [] ∧ ∀ c ∈ name.toList, isAttrNameChar c

/-- An attribute value that needs no quotes. -/
def IsBareValue (value : String) : Prop := ∀ c ∈ value.toList, c ∉ "]\"'".toList

instance : DecidablePred IsBareValue := fun value =>
  decidable_of_iff (value.toList.all fun c => !"]\"'".toList.contains c) (by simp [IsBareValue])

namespace Lexeme

/-- The text of a lexeme. -/
def text : Lexeme → List Char
  | .notOpen => ":not(".toList
  | .element name => name.toList
  | .id name => '#' :: name.toList
  | .cls name => '.' :: name.toList
  | .attr name value =>
    '[' :: name.toList ++ (if value = "" then [']'] else '=' :: value.toList ++ [']'])
  | .close => [')']
  | .comma => [',']

theorem text_element (name : String) : (element name).text = name.toList := rfl

theorem text_cls (name : String) : (cls name).text = '.' :: name.toList := rfl

theorem text_attr (name value : String) : (attr name value).text =
    '[' :: name.toList ++ (if value = "" then [']'] else '=' :: value.toList ++ [']']) := rfl

/-- A lexeme with names that are names and a value that needs no quotes. -/
def Plain : Lexeme → Prop
  | .element name | .id name | .cls name => IsName name
  | .attr name value => IsAttrName name ∧ IsBareValue value
  | _ => True

/-- A lexeme of the text `cs`: its names are names, and its other characters come from the text. -/
def From (cs : List Char) : Lexeme → Prop
  | .element name | .id name | .cls name => IsName name
  | .attr name value => IsAttrName name ∧ ∀ c ∈ value.toList, c ∈ cs
  | .comma => ',' ∈ cs
  | _ => True

theorem From.mono {ds : List Char} (hsub : cs ⊆ ds) (h : t.From cs) : t.From ds := by
  cases t with
  | attr name value => exact ⟨h.1, fun c hc => hsub (h.2 c hc)⟩
  | comma => exact hsub h
  | _ => exact h

end Lexeme

/-- A text that does not go on with a name. -/
def Apart (rest : List Char) : Prop := ∀ c ∈ rest.head?, isNameChar c = false

theorem apart_nil : Apart [] := by
  simp [Apart]

theorem apart_cons (h : isNameChar c = false) (cs : List Char) : Apart (c :: cs) := by
  simpa [Apart] using h

theorem namePart_text {name : String} (make : String → Lexeme) (hname : IsName name)
    (hrest : Apart rest) : namePart make (name.toList ++ rest) = some (make name, rest) := by
  obtain ⟨htake, hdrop⟩ := takeWhile_append_stop isNameChar name.toList rest hname.2 hrest
  simp [namePart, htake, hdrop, hname.1]

/-- A value is read in quotes first. -/
theorem attrValue_cons (c : Char) (cs : List Char) :
    attrValue (c :: cs) =
      (if c ∈ "\"'".toList then quotedValue c cs else none).or (bareValue (c :: cs)) := by
  unfold attrValue
  split <;> simp_all

theorem attrValue_text {value : String} (hvalue : IsBareValue value) (rest : List Char) :
    attrValue (value.toList ++ ']' :: rest) = some (value.toList, rest) := by
  have hbare : bareValue (value.toList ++ ']' :: rest) = some (value.toList, rest) := by
    have hstop : ∀ a ∈ value.toList, (a != ']') = true := fun a ha => by
      have hmem := hvalue a ha
      simp_all
    obtain ⟨htake, hdrop⟩ :=
      takeWhile_append_stop (· != ']') value.toList (']' :: rest) hstop (by simp)
    rw [bareValue, hdrop, htake]
  rw [← hbare]
  cases hchars : value.toList with
  | nil => rfl
  | cons a as =>
    have hquote : a ∉ "]\"'".toList := hvalue a (by simp [hchars])
    rw [List.cons_append, attrValue_cons, if_neg (by simp_all)]
    rfl

theorem attributePart_text {name value : String} (hname : IsAttrName name) (hvalue : IsBareValue value)
    (rest : List Char) :
    attributePart (name.toList ++ (if value = "" then [']'] else '=' :: value.toList ++ [']']) ++ rest) =
      some (.attr name value, rest) := by
  have hscan : ∀ ds, (∀ d ∈ ds.head?, isAttrNameChar d = false) →
      (name.toList ++ ds).takeWhile isAttrNameChar = name.toList ∧
        (name.toList ++ ds).dropWhile isAttrNameChar = ds :=
    fun ds => takeWhile_append_stop isAttrNameChar name.toList ds hname.2
  split
  · next hempty =>
    obtain ⟨htake, hdrop⟩ := hscan (']' :: rest) (by simp; decide)
    rw [List.append_assoc, List.singleton_append, attributePart, htake, hdrop]
    simp [hname.1, hempty]
  · obtain ⟨htake, hdrop⟩ := hscan ('=' :: (value.toList ++ ']' :: rest)) (by simp; decide)
    rw [List.append_assoc, List.cons_append, List.cons_append, List.append_assoc, List.singleton_append,
      attributePart, htake, hdrop]
    simp [hname.1, attrValue_text hvalue]

/-- A written lexeme is read, whatever stands behind it, if only no name goes on there. -/
theorem lexemes_text (ht : t.Plain) (hrest : Apart rest) :
    lexemes (t.text ++ rest) = t :: lexemes rest := by
  cases t with
  | notOpen => exact lexemes_of_some (lexeme_notOpen rest)
  | close => exact lexemes_of_some (lexeme_close rest)
  | comma => exact lexemes_comma rest
  | cls name => exact lexemes_of_some ((lexeme_dot _).trans (namePart_text .cls ht hrest))
  | id name => exact lexemes_of_some ((lexeme_hash _).trans (namePart_text .id ht hrest))
  | attr name value =>
    exact lexemes_of_some ((lexeme_bracket _).trans (attributePart_text ht.1 ht.2 rest))
  | element name =>
    have hpart := namePart_text .element ht hrest
    refine lexemes_of_some ?_
    rw [Lexeme.text_element]
    cases hchars : name.toList with
    | nil => exact absurd hchars ht.1
    | cons a as =>
      have ha : isNameChar a := ht.2 a (by simp [hchars])
      rw [hchars] at hpart
      rw [List.cons_append] at hpart ⊢
      rw [lexeme_of_unmarked ?_, hpart]
      · rfl
      · intro hmark
        have hmarks : ∀ m ∈ ":.#[)".toList, ¬ isNameChar m := List.any_eq_false.1 (by decide)
        exact hmarks a hmark ha

/-! ### What a text can yield -/

theorem namePart_inv (h : namePart make cs = some (t, rest)) :
    (∃ name, t = make name ∧ IsName name) ∧ rest ⊆ cs := by
  simp only [namePart] at h
  split at h
  · cases h
  · next hne =>
    cases h
    refine ⟨⟨_, rfl, ?_, ?_⟩, (List.dropWhile_suffix isNameChar).subset⟩
    · simpa using hne
    · intro c hc
      rw [String.toList_ofList] at hc
      exact List.mem_takeWhile_imp hc

theorem attrValue_inv {value : List Char} (h : attrValue cs = some (value, rest)) :
    value ⊆ cs ∧ rest ⊆ cs := by
  have hquoted : ∀ quote inner, quotedValue quote inner = some (value, rest) →
      value ⊆ inner ∧ rest ⊆ inner := by
    intro quote inner h
    have hsuffix := (List.dropWhile_suffix (l := inner) (· != quote)).subset
    unfold quotedValue at h
    split at h
    · next heq =>
      cases h
      rw [heq] at hsuffix
      refine ⟨(List.takeWhile_prefix _).subset, fun c hc => hsuffix (by simp [hc])⟩
    · cases h
  have hbare : bareValue cs = some (value, rest) → value ⊆ cs ∧ rest ⊆ cs := by
    intro h
    have hsuffix := (List.dropWhile_suffix (l := cs) (· != ']')).subset
    unfold bareValue at h
    split at h
    · next heq =>
      cases h
      rw [heq] at hsuffix
      refine ⟨(List.takeWhile_prefix _).subset, fun c hc => hsuffix (by simp [hc])⟩
    · cases h
  cases cs with
  | nil => cases h
  | cons c cs =>
    rw [attrValue_cons] at h
    rcases Option.or_eq_some_iff.1 h with h | ⟨-, h⟩
    · split at h
      · obtain ⟨hvalue, hrest⟩ := hquoted _ _ h
        exact ⟨List.subset_cons_of_subset _ hvalue, List.subset_cons_of_subset _ hrest⟩
      · cases h
    · exact hbare h

theorem attributePart_inv (h : attributePart cs = some (t, rest)) : t.From cs ∧ rest ⊆ cs := by
  have hsuffix := (List.dropWhile_suffix (l := cs) isAttrNameChar).subset
  simp only [attributePart] at h
  split at h
  · cases h
  · next hne =>
    have hname : IsAttrName (String.ofList (cs.takeWhile isAttrNameChar)) := by
      refine ⟨by simpa using hne, fun c hc => ?_⟩
      rw [String.toList_ofList] at hc
      exact List.mem_takeWhile_imp hc
    split at h
    · next heq =>
      cases h
      rw [heq] at hsuffix
      exact ⟨⟨hname, by simp⟩, fun c hc => hsuffix (by simp [hc])⟩
    · next heq =>
      obtain ⟨⟨value, rest'⟩, hvalue, hpair⟩ := Option.map_eq_some_iff.1 h
      cases hpair
      obtain ⟨hvalue, hrest⟩ := attrValue_inv hvalue
      rw [heq] at hsuffix
      refine ⟨⟨hname, fun c hc => ?_⟩, fun c hc => hsuffix (by simp [hrest hc])⟩
      rw [String.toList_ofList] at hc
      exact hsuffix (by simp [hvalue hc])
    · cases h

theorem commaPart_inv (h : commaPart cs = some (t, rest)) : (t = .comma ∧ ',' ∈ cs) ∧ rest ⊆ cs := by
  have hsuffix := (List.dropWhile_suffix (l := cs) isBlank).subset
  unfold commaPart at h
  split at h
  · next after heq =>
    cases h
    have hafter := (List.dropWhile_suffix (l := after) isBlank).subset
    rw [heq] at hsuffix
    exact ⟨⟨rfl, hsuffix (by simp)⟩, fun c hc => hsuffix (by simp [hafter hc])⟩
  · cases h

theorem lexeme_inv (h : lexeme cs = some (t, rest)) : t.From cs ∧ rest ⊆ cs := by
  have hcons : ∀ {b : Char} {bs : List Char}, t.From bs ∧ rest ⊆ bs →
      t.From (b :: bs) ∧ rest ⊆ b :: bs := fun h =>
    ⟨h.1.mono (List.subset_cons_self _ _), List.subset_cons_of_subset _ h.2⟩
  unfold lexeme at h
  split at h
  · next hlit =>
    cases h
    rw [eq_append_of_dropLiteral? hlit]
    exact ⟨trivial, List.subset_append_right _ _⟩
  · split at h
    · obtain ⟨⟨name, rfl, hname⟩, hrest⟩ := namePart_inv h
      exact hcons ⟨hname, hrest⟩
    · obtain ⟨⟨name, rfl, hname⟩, hrest⟩ := namePart_inv h
      exact hcons ⟨hname, hrest⟩
    · exact hcons (attributePart_inv h)
    · cases h
      exact ⟨trivial, List.subset_cons_self _ _⟩
    · rcases Option.or_eq_some_iff.1 h with h | ⟨-, h⟩
      · obtain ⟨⟨name, rfl, hname⟩, hrest⟩ := namePart_inv h
        exact ⟨hname, hrest⟩
      · obtain ⟨⟨rfl, hcomma⟩, hrest⟩ := commaPart_inv h
        exact ⟨hcomma, hrest⟩

theorem from_of_mem_lexemes (h : t ∈ lexemes cs) : t.From cs := by
  induction cs using lexemes.induct with
  | case1 cs u rest hlexeme ih =>
    rw [lexemes_of_some hlexeme] at h
    obtain ⟨hfrom, hrest⟩ := lexeme_inv hlexeme
    rcases List.mem_cons.1 h with rfl | h
    · exact hfrom
    · exact (ih h).mono hrest
  | case2 hlexeme =>
    rw [lexemes_nil] at h
    cases h
  | case3 c cs hlexeme ih =>
    rw [lexemes_of_none hlexeme] at h
    exact (ih h).mono (List.subset_cons_self _ _)

/-! ### Cutting a text -/

/-- How a part that is read at the start of a text compares with the part that is read there when
`tail` is written behind the text: it is the same part, or it is a part that fulfils `Long` and
stretches up to a bracket of `tail`. -/
def SameOrLong {α : Type} (Long : α → Prop) (tail : List Char)
    (alone followed : Option (α × List Char)) : Prop :=
  followed = alone.map (fun x => (x.1, x.2 ++ tail)) ∨
    ∃ a rest, followed = some (a, rest) ∧ Long a ∧ ']' ∈ tail

/-- A search for `q` ends in the text, or it goes on behind the character `c` at which the text was
cut. -/
theorem search_append {q : Char} (hq : c ≠ q) (as ds : List Char) :
    ((as ++ c :: ds).takeWhile (· != q) = as.takeWhile (· != q) ∧
        (as ++ c :: ds).dropWhile (· != q) = as.dropWhile (· != q) ++ c :: ds ∧
        as.dropWhile (· != q) ≠ []) ∨
      (c ∈ (as ++ c :: ds).takeWhile (· != q) ∧
        (as ++ c :: ds).dropWhile (· != q) = ds.dropWhile (· != q) ∧
        as.dropWhile (· != q) = []) := by
  induction as with
  | nil => exact .inr (by simp [hq])
  | cons a as ih =>
    by_cases ha : a = q
    · exact .inl (by simp [ha])
    · obtain hends | ⟨hmem, hdrop, hnil⟩ := ih
      · exact .inl (by simpa [ha] using hends)
      · exact .inr (by simpa [ha, hmem, hdrop] using hnil)

theorem bareValue_append (hc : isGap c) (as ds : List Char) :
    SameOrLong (c ∈ ·) (c :: ds) (bareValue as) (bareValue (as ++ c :: ds)) := by
  have hbracket : c ≠ ']' := fun heq => (isGap_apart hc).2 (by simp [heq])
  unfold bareValue
  obtain ⟨htake, hdrop, hfound⟩ | ⟨hmem, hdrop, hnil⟩ := search_append hbracket as ds
  · obtain ⟨b, bs, hcons⟩ := List.exists_cons_of_ne_nil hfound
    exact .inl (by simp [htake, hdrop, hcons])
  · rw [hdrop, hnil]
    cases hrest : ds.dropWhile (· != ']') with
    | nil => exact .inl rfl
    | cons b bs =>
      have hb : b = ']' := by
        have hhead := List.head?_dropWhile_not (· != ']') ds
        simpa [hrest] using hhead
      have hmem' : ']' ∈ ds := (List.dropWhile_suffix _).subset (by rw [hrest, hb]; simp)
      exact .inr ⟨_, _, rfl, hmem, by simp [hmem']⟩

theorem quotedValue_append {q : Char} (hq : q ∈ "\"'".toList) (hc : isGap c) (as ds : List Char) :
    SameOrLong (c ∈ ·) (c :: ds) (quotedValue q as) (quotedValue q (as ++ c :: ds)) := by
  have hmark := (isGap_apart hc).2
  have hquote : c ≠ q := by
    rintro rfl
    simp_all
  have hbracket : c ≠ ']' := fun heq => hmark (by simp [heq])
  unfold quotedValue
  obtain ⟨htake, hdrop, hfound⟩ | ⟨hmem, hdrop, hnil⟩ := search_append hquote as ds
  · obtain ⟨b, bs, hcons⟩ := List.exists_cons_of_ne_nil hfound
    refine .inl ?_
    rw [htake, hdrop, hcons]
    -- the quote stands in front of the cut, so that the bracket has to stand there too
    cases bs with
    | nil => simp [hbracket]
    | cons b' bs =>
      by_cases hb' : b' = ']'
      · simp [hb']
      · simp [hb']
  · rw [hdrop, hnil]
    cases hrest : ds.dropWhile (· != q) with
    | nil => exact .inl rfl
    | cons b bs =>
      cases bs with
      | nil => exact .inl rfl
      | cons b' bs =>
        by_cases hb' : b' = ']'
        · have hmem' : ']' ∈ ds := (List.dropWhile_suffix _).subset (by rw [hrest, hb']; simp)
          subst hb'
          exact .inr ⟨_, _, rfl, hmem, by simp [hmem']⟩
        · exact .inl (by simp [hb'])

theorem attrValue_append (hc : isGap c) (as ds : List Char) :
    SameOrLong (c ∈ ·) (c :: ds) (attrValue as) (attrValue (as ++ c :: ds)) := by
  have hmark := (isGap_apart hc).2
  cases as with
  | nil =>
    have hbare := bareValue_append hc [] ds
    rw [List.nil_append] at hbare ⊢
    rw [attrValue_cons, if_neg (by simp_all)]
    exact hbare
  | cons a as =>
    have hbare := bareValue_append hc (a :: as) ds
    rw [List.cons_append] at hbare ⊢
    rw [attrValue_cons, attrValue_cons]
    split
    · next hquote =>
      obtain hsame | ⟨value, rest, hlong, hmem⟩ := quotedValue_append hquote hc as ds
      · rw [hsame]
        cases quotedValue a as with
        | none => exact hbare
        | some x => exact .inl rfl
      · rw [hlong]
        exact .inr ⟨value, rest, rfl, hmem⟩
    · exact hbare

/-- An attribute with a value that holds `c`. -/
def Lexeme.Holds (c : Char) (t : Lexeme) : Prop := ∃ name value, t = .attr name value ∧ c ∈ value.toList

theorem attributePart_append (hc : isGap c) (as ds : List Char) :
    SameOrLong (Lexeme.Holds c) (c :: ds) (attributePart as) (attributePart (as ++ c :: ds)) := by
  obtain ⟨hname, hmark⟩ := isGap_apart hc
  have hstop : ∀ b ∈ (c :: ds).head?, isAttrNameChar b = false := by simpa using hname
  obtain ⟨htake, hdrop⟩ := takeWhile_append_of_stop as hstop
  simp only [attributePart, htake, hdrop]
  split
  · exact .inl rfl
  · cases hafter : as.dropWhile isAttrNameChar with
    | nil =>
      refine .inl ?_
      rw [List.nil_append]
      split <;> simp_all
    | cons b bs =>
      rw [List.cons_append]
      by_cases hclosed : b = ']'
      · subst hclosed
        exact .inl rfl
      by_cases hvalued : b = '='
      · subst hvalued
        obtain hsame | ⟨value, rest, hlong, hmem, htail⟩ := attrValue_append hc bs ds
        · refine .inl ?_
          simp only [hsame, Option.map_map]
          rfl
        · refine .inr ⟨.attr (String.ofList (as.takeWhile isAttrNameChar)) (String.ofList value), rest,
            ?_, ⟨_, _, rfl, by simpa using hmem⟩, htail⟩
          simp only [hlong, Option.map_some]
      · refine .inl ?_
        split <;> simp_all

theorem dropLiteral?_append {lit : List Char} (hc : c ∉ lit) (as ds : List Char) :
    dropLiteral? lit (as ++ c :: ds) = (dropLiteral? lit as).map (· ++ c :: ds) := by
  induction lit generalizing as with
  | nil => cases as <;> rfl
  | cons l lit ih =>
    obtain ⟨hne, hlit⟩ : c ≠ l ∧ c ∉ lit := by simpa using hc
    cases as with
    | nil => simp [dropLiteral?, Ne.symm hne]
    | cons a as =>
      simp only [List.cons_append, dropLiteral?, ih hlit]
      split <;> rfl

/-- Where a text is cut in front of `c`, a part in front of the cut is the same without what follows, or
it is an attribute with a value that holds `c`. -/
theorem lexeme_append {a : Char} (ha : isGap a = false) (hc : isGap c) (as ds : List Char) :
    SameOrLong (Lexeme.Holds c) (c :: ds) (lexeme (a :: as)) (lexeme (a :: as ++ c :: ds)) := by
  obtain ⟨-, hmark⟩ := isGap_apart hc
  have hname : ∀ b ∈ (c :: ds).head?, isNameChar b = false := by simpa using isNameChar_of_isGap hc
  have hnot : c ∉ "not(".toList := by simp_all
  have hcomma : ∀ bs, commaPart (a :: bs) = none := by
    obtain ⟨hblank, hne⟩ : isBlank a = false ∧ a ≠ ',' := by simpa [isGap] using ha
    intro bs
    simp [commaPart, hblank, hne]
  rw [List.cons_append]
  by_cases hmarked : a ∈ ":.#[)".toList
  · simp only [String.reduceToList, List.mem_cons, List.not_mem_nil, or_false] at hmarked
    rcases hmarked with rfl | rfl | rfl | rfl | rfl
    · rw [lexeme_colon, lexeme_colon, dropLiteral?_append hnot, Option.map_map]
      exact .inl (by rw [Option.map_map]; rfl)
    · rw [lexeme_dot, lexeme_dot]
      exact .inl (namePart_append .cls as hname)
    · rw [lexeme_hash, lexeme_hash]
      exact .inl (namePart_append .id as hname)
    · rw [lexeme_bracket, lexeme_bracket]
      exact attributePart_append hc as ds
    · exact .inl rfl
  · have hpart := namePart_append .element (a :: as) hname
    rw [List.cons_append] at hpart
    rw [lexeme_of_unmarked hmarked, lexeme_of_unmarked hmarked, hpart, hcomma, hcomma, Option.or_none,
      Option.or_none]
    exact .inl rfl

/-- A text can be cut in front of white space and commas, unless the value of an attribute stretches over
the cut, up to a bracket behind it. -/
theorem lexemes_append (hc : isGap c) (as ds : List Char)
    (hvalues : ∀ t ∈ lexemes (as ++ c :: ds), t.Holds c → ']' ∉ c :: ds) :
    lexemes (as ++ c :: ds) = lexemes as ++ lexemes (c :: ds) := by
  induction hlength : as.length using Nat.strong_induction_on generalizing as with
  | _ n ih =>
    subst hlength
    cases as with
    | nil => rw [lexemes_nil, List.nil_append, List.nil_append]
    | cons a as =>
      by_cases ha : isGap a
      · rcases Bool.or_eq_true_iff.1 ha with hblank | hcomma
        · rw [List.cons_append, lexemes_blank hblank] at hvalues ⊢
          rw [lexemes_blank hblank, ih as.length (by simp) as hvalues rfl]
        · obtain rfl := beq_iff_eq.1 hcomma
          rw [List.cons_append, lexemes_comma] at hvalues ⊢
          have hvalues' := fun t ht => hvalues t (List.mem_cons_of_mem _ ht)
          rw [lexemes_comma, ih as.length (by simp) as hvalues' rfl, List.cons_append]
      · obtain hsame | ⟨t, rest, hlong, hholds, hbracket⟩ :=
          lexeme_append (by simpa using ha) hc as ds
        · cases hlexeme : lexeme (a :: as) with
          | none =>
            rw [hlexeme] at hsame
            rw [lexemes_of_none hlexeme]
            rw [List.cons_append] at hsame hvalues ⊢
            rw [lexemes_of_none hsame] at hvalues ⊢
            exact ih as.length (by simp) as hvalues rfl
          | some x =>
            obtain ⟨t, rest⟩ := x
            rw [hlexeme] at hsame
            rw [lexemes_of_some hsame] at hvalues ⊢
            rw [lexemes_of_some hlexeme, List.cons_append,
              ih rest.length (lexeme_length hlexeme) rest
                (fun u hu => hvalues u (List.mem_cons_of_mem _ hu)) rfl]
        · exact absurd hbracket (hvalues t (by rw [lexemes_of_some hlong]; simp) hholds)

/-- White space at the ends of a text plays no part. -/
theorem lexemes_trim (cs : List Char) : lexemes (trim cs) = lexemes cs := by
  rw [← lexemes_dropWhile_isBlank cs]
  change lexemes (trimEnd (trimStart cs)) = lexemes (trimStart cs)
  generalize trimStart cs = as
  have hsplit : trimEnd as ++ as.rtakeWhile isBlank = as := List.rdropWhile_append_rtakeWhile
  have hblank : ∀ c ∈ as.rtakeWhile isBlank, isBlank c := fun c => List.mem_rtakeWhile_imp
  cases htail : as.rtakeWhile isBlank with
  | nil => rw [htail, List.append_nil] at hsplit; rw [hsplit]
  | cons c ds =>
    rw [htail] at hsplit hblank
    have hgap : isGap c := by simp [isGap, hblank c List.mem_cons_self]
    have hbracket : ']' ∉ c :: ds := fun h => absurd (hblank _ h) (by decide)
    conv_rhs => rw [← hsplit, lexemes_append hgap _ _ fun _ _ _ => hbracket]
    rw [lexemes_of_forall_isBlank hblank, List.append_nil]

end ComponentAtlas.Selector

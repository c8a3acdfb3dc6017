import ComponentAtlas.Markup.Tree
import ComponentAtlas.Proofs.Text.Cutting
import Mathlib.Data.List.Basic

/-!
# Printed trees

Markup written by a program rather than by hand: elements with both tags, attributes in double
quotes, and the characters that could begin markup or a reference written as numeric references.

* `Tree`: elements, texts and comments, without the places where they are written;
* `Node.tree?`: the tree of a node;
* `PlainForest`: the trees that can be printed;
* `References`: a way to write references; `Tree.print`, `printAll`: the text of trees;
* `decode_written`: what is written with references is decoded to what was meant.
-/

namespace ComponentAtlas.Markup

open ComponentAtlas.Text ComponentAtlas.Source

/-- An element with its attributes and children, a text or a comment. -/
inductive Tree
  | element (name : String) (attrs : List (String × String)) (children : List Tree)
  | text (value : String)
  | comment (value : String)

/-- Whether a tree is a text. -/
def Tree.isText : Tree → Bool
  | .text _ => true
  | _ => false

mutual

/-- The tree of a node without expansions. -/
def Node.tree? : Node → Option Tree
  | .element head children _ _ =>
    (trees? children).map (.element head.name (head.attrs.map fun a => (a.name, a.value)))
  | .text value _ => some (.text value)
  | .comment value _ => some (.comment value)
  | .expansion _ => none

/-- The trees of nodes without expansions. -/
def trees? : List Node → Option (List Tree)
  | [] => some []
  | n :: ns =>
    match n.tree?, trees? ns with
    | some t, some ts => some (t :: ts)
    | _, _ => none

end

/-! ### Trees that can be printed -/

/-- A name of letters, digits and dashes that begins with a letter and says nothing about the
structure of a document. -/
structure PlainName (name : String) : Prop where
  start : name.toList.head?.any Char.isAlpha
  chars : ∀ c ∈ name.toList, c.isAlphanum ∨ c = '-'
  not_void : Tag.isVoid name = false
  parsed : Tag.content name = .parsed
  no_namespace : Tag.implicitNamespace name = none

/-- A name that ends only where the attribute does. -/
structure PlainAttribute (name : String) : Prop where
  nonempty : name ≠ ""
  chars : ∀ c ∈ name.toList, isAsciiBlank c = false ∧ c ≠ '=' ∧ c ≠ '<' ∧ c ≠ '>' ∧ c ≠ '/'

mutual

/-- A tree that can be printed inside a parent of the given name. -/
def Tree.Plain (parent : Option String) : Tree → Prop
  | .element name attrs children =>
    PlainName name ∧ (∀ p ∈ parent, Tag.isClosedBy p name = false) ∧ (∀ a ∈ attrs, PlainAttribute a.1) ∧
      PlainForest (some name) children
  | .text value => value ≠ ""
  | .comment value => trimmed value = value ∧ contains value "-->" = false

/-- Trees that can be printed one after the other, so no two texts in a row. -/
def PlainForest (parent : Option String) : List Tree → Prop
  | [] => True
  | t :: ts => t.Plain parent ∧ (t.isText → ∀ u ∈ ts.head?, u.isText = false) ∧ PlainForest parent ts

end

instance (name : String) : Decidable (PlainName name) :=
  have := name.toList.decidableBAll fun c => c.isAlphanum = true ∨ c = '-'
  decidable_of_iff (name.toList.head?.any Char.isAlpha = true ∧
      (∀ c ∈ name.toList, c.isAlphanum = true ∨ c = '-') ∧ Tag.isVoid name = false ∧
      Tag.content name = .parsed ∧ Tag.implicitNamespace name = none)
    ⟨fun ⟨h1, h2, h3, h4, h5⟩ => ⟨h1, h2, h3, h4, h5⟩,
      fun h => ⟨h.start, h.chars, h.not_void, h.parsed, h.no_namespace⟩⟩

instance (name : String) : Decidable (PlainAttribute name) :=
  have := name.toList.decidableBAll fun c =>
    isAsciiBlank c = false ∧ c ≠ '=' ∧ c ≠ '<' ∧ c ≠ '>' ∧ c ≠ '/'
  decidable_of_iff (name ≠ "" ∧
      ∀ c ∈ name.toList, isAsciiBlank c = false ∧ c ≠ '=' ∧ c ≠ '<' ∧ c ≠ '>' ∧ c ≠ '/')
    ⟨fun ⟨h1, h2⟩ => ⟨h1, h2⟩, fun h => ⟨h.nonempty, h.chars⟩⟩

mutual

instance Tree.decidablePlain (parent : Option String) : (t : Tree) → Decidable (t.Plain parent)
  | .element name _ children =>
    have := decidablePlainForest (some name) children
    inferInstanceAs (Decidable (_ ∧ _ ∧ _ ∧ _))
  | .text value => inferInstanceAs (Decidable (value ≠ ""))
  | .comment value => inferInstanceAs (Decidable (trimmed value = value ∧ contains value "-->" = false))

instance decidablePlainForest (parent : Option String) : (ts : List Tree) → Decidable (PlainForest parent ts)
  | [] => inferInstanceAs (Decidable True)
  | t :: ts =>
    have := Tree.decidablePlain parent t
    have := decidablePlainForest parent ts
    inferInstanceAs (Decidable (_ ∧ (_ → _) ∧ _))

end

/-! ### References -/

/-- The characters that are written as references. -/
def isSpecial (c : Char) : Bool := c == '&' || c == '<' || c == '\x7b' || c == '"'

/-- The numeric references to a character. -/
inductive Refers (c : Char) : List Char → Prop
  | decimal {ds : List Char} (nonempty : ds ≠ []) (digits : ∀ d ∈ ds, d.isDigit)
      (value : Entity.numeral 10 ds = c.toNat) : Refers c ('&' :: '#' :: (ds ++ [';']))
  | hexadecimal {x : Char} {ds : List Char} (mark : x = 'x' ∨ x = 'X') (nonempty : ds ≠ [])
      (digits : ∀ d ∈ ds, Entity.isHexDigit d) (value : Entity.numeral 16 ds = c.toNat) :
      Refers c ('&' :: '#' :: x :: (ds ++ [';']))

/-- A way to write references. -/
structure References where
  write : Char → List Char
  refers : ∀ c, isSpecial c → Refers c (write c)

/-- References in decimal digits. -/
def References.decimal : References where
  write c := '&' :: '#' :: (Nat.toDigits 10 c.toNat ++ [';'])
  refers c hc := by
    simp only [isSpecial, Bool.or_eq_true, beq_iff_eq] at hc
    rcases hc with ((rfl | rfl) | rfl) | rfl <;>
      exact .decimal (by decide) (List.all_eq_true.1 (by decide)) (by decide)

/-- A text with its special characters written as references. -/
def References.written (r : References) (cs : List Char) : List Char :=
  cs.flatMap fun c => if isSpecial c then r.write c else [c]

/-! ### Printing -/

/-- An attribute behind the blank that separates it from what precedes it. -/
def printAttribute (r : References) (a : String × String) : List Char :=
  ' ' :: (a.1.toList ++ '=' :: '"' :: (r.written a.2.toList ++ ['"']))

mutual

/-- The text of a tree. -/
def Tree.print (r : References) : Tree → List Char
  | .element name attrs children =>
    '<' :: (name.toList ++ attrs.flatMap (printAttribute r) ++ '>' ::
      (printAll r children ++ '<' :: '/' :: (name.toList ++ ['>'])))
  | .text value => r.written value.toList
  | .comment value => '<' :: '!' :: '-' :: '-' :: (value.toList ++ ['-', '-', '>'])

/-- The text of trees one after the other. -/
def printAll (r : References) : List Tree → List Char
  | [] => []
  | t :: ts => t.print r ++ printAll r ts

end

/-! ### Reading references back -/

variable {r : References} {c : Char} {cs : List Char}

theorem scalar?_toNat (c : Char) : Entity.scalar? c.toNat = some c := by
  have hvalid : c.toNat < 0xD800 ∨ 0xDFFF < c.toNat ∧ c.toNat < 0x110000 := c.valid
  rw [Entity.scalar?, if_pos (by simpa using hvalid), Char.ofNat_toNat]

theorem Refers.reference? {w : List Char} (h : Refers c w) (rest : List Char) :
    ∃ body, w = '&' :: body ∧ Entity.reference? (body ++ rest) = some (some c, rest) := by
  cases h with
  | decimal hne hdigits hvalue =>
    rename_i ds
    refine ⟨_, rfl, ?_⟩
    obtain ⟨d, ds, rfl⟩ := List.exists_cons_of_ne_nil hne
    have hd : d.isDigit := hdigits d List.mem_cons_self
    have hmark : (d == 'x' || d == 'X') = false := by
      by_contra hx
      simp only [Bool.not_eq_false, Bool.or_eq_true, beq_iff_eq] at hx
      rcases hx with rfl | rfl <;> exact absurd hd (by decide)
    obtain ⟨htake, hdrop⟩ := takeWhile_append_stop Char.isDigit _ (';' :: rest) hdigits (by simp)
    have hscalar := scalar?_toNat c
    rw [← hvalue] at hscalar
    simp only [List.cons_append, List.append_assoc, List.nil_append] at htake hdrop ⊢
    simp [Entity.reference?, hmark, htake, hdrop, hscalar]
  | hexadecimal hmark hne hdigits hvalue =>
    rename_i x ds
    refine ⟨_, rfl, ?_⟩
    have hx : (x == 'x' || x == 'X') = true := by simpa using hmark
    obtain ⟨d, ds, rfl⟩ := List.exists_cons_of_ne_nil hne
    obtain ⟨htake, hdrop⟩ := takeWhile_append_stop Entity.isHexDigit _ (';' :: rest) hdigits (by simp; rfl)
    have hscalar := scalar?_toNat c
    rw [← hvalue] at hscalar
    simp only [List.cons_append, List.append_assoc, List.nil_append] at htake hdrop ⊢
    simp [Entity.reference?, hx, htake, hdrop, hscalar]

theorem References.written_cons (r : References) (c : Char) (cs : List Char) :
    r.written (c :: cs) = (if isSpecial c then r.write c else [c]) ++ r.written cs := List.flatMap_cons

theorem decodeChars_written (cs : List Char) {fuel : ℕ} (h : cs.length ≤ fuel) :
    Entity.decodeChars fuel (r.written cs) = cs := by
  induction cs generalizing fuel with
  | nil => cases fuel <;> rfl
  | cons c cs ih =>
    obtain ⟨fuel, rfl⟩ := Nat.exists_eq_add_of_le' (Nat.lt_of_lt_of_le (Nat.succ_pos _) h)
    have hmore := ih (Nat.le_of_succ_le_succ h)
    rw [References.written_cons]
    split
    · rename_i hc
      obtain ⟨body, hbody, href⟩ := (r.refers c hc).reference? (r.written cs)
      rw [hbody, List.cons_append, Entity.decodeChars, beq_self_eq_true, if_pos rfl, href]
      exact congrArg (c :: ·) hmore
    · rename_i hc
      have hamp : (c == '&') = false := by
        by_contra hamp
        exact hc (by simp_all [isSpecial])
      rw [List.singleton_append, Entity.decodeChars, hamp]
      exact congrArg (c :: ·) hmore

theorem Refers.length_pos {w : List Char} (h : Refers c w) : 0 < w.length := by
  cases h <;> simp

theorem length_le_written (cs : List Char) : cs.length ≤ (r.written cs).length := by
  induction cs with
  | nil => exact Nat.le_refl _
  | cons c cs ih =>
    have hpos : 0 < (if isSpecial c then r.write c else [c]).length := by
      split
      · rename_i hc
        exact (r.refers c hc).length_pos
      · exact Nat.one_pos
    rw [References.written_cons, List.length_append, List.length_cons]
    omega

/-- What is written with references is decoded to what was meant. -/
theorem decode_written (cs : List Char) : Entity.decode (r.written cs) = String.ofList cs := by
  rw [Entity.decode, decodeChars_written cs (length_le_written cs)]

theorem written_ne_nil (h : cs ≠ []) : r.written cs ≠ [] := by
  intro hnil
  have hlength := length_le_written (r := r) cs
  rw [hnil] at hlength
  exact h (List.eq_nil_of_length_eq_zero (Nat.le_zero.1 hlength))

theorem isHexDigit_plain {d : Char} (h : Entity.isHexDigit d) : d ≠ '<' ∧ d ≠ '\x7b' ∧ d ≠ '"' := by
  refine ⟨?_, ?_, ?_⟩ <;> rintro rfl <;> exact absurd h (by decide)

/-- The only special character of a reference is its ampersand. -/
theorem Refers.plain {w : List Char} (h : Refers c w) : ∀ d ∈ w, d ≠ '<' ∧ d ≠ '\x7b' ∧ d ≠ '"' := by
  intro d hd
  cases h with
  | decimal _ hdigits _ =>
    simp only [List.mem_cons, List.mem_append, List.not_mem_nil, or_false] at hd
    rcases hd with rfl | rfl | hd | rfl
    · decide
    · decide
    · exact isHexDigit_plain (by simp [Entity.isHexDigit, hdigits d hd])
    · decide
  | hexadecimal hmark _ hdigits _ =>
    simp only [List.mem_cons, List.mem_append, List.not_mem_nil, or_false] at hd
    rcases hd with rfl | rfl | rfl | hd | rfl
    · decide
    · decide
    · rcases hmark with rfl | rfl <;> decide
    · exact isHexDigit_plain (hdigits d hd)
    · decide

theorem written_plain (cs : List Char) : ∀ d ∈ r.written cs, d ≠ '<' ∧ d ≠ '\x7b' ∧ d ≠ '"' := by
  intro d hd
  obtain ⟨c, -, hd⟩ := List.mem_flatMap.1 hd
  split at hd
  · rename_i hc
    exact (r.refers c hc).plain d hd
  · rename_i hc
    rw [List.mem_singleton.1 hd]
    simp only [isSpecial, Bool.or_eq_true, beq_iff_eq, not_or] at hc
    exact ⟨hc.1.1.2, hc.1.2, hc.2⟩

end ComponentAtlas.Markup

import ComponentAtlas.Selector.Basic
import ComponentAtlas.Text.Ranges

/-!
# Reading selector lists

A selector list is cut into lexemes; characters that begin no lexeme are passed over. The lexemes
are then folded into selectors.

* `lexeme`: the lexeme at the start of a text;
* `lexemes`: all lexemes of a text;
* `Selector.ofText`: the selectors of a list, or why they cannot be read.
-/

namespace ComponentAtlas.Selector

open ComponentAtlas.Text

/-- Why a selector list is refused. -/
inductive ReadError
  | nestedNot
  | severalInNot
  | unescapedDollar (name : String)
  deriving DecidableEq, Repr

/-- The text of a refusal. -/
def ReadError.message : ReadError → String
  | .nestedNot => "Nesting :not in a selector is not allowed"
  | .severalInNot => "Multiple selectors in :not are not supported"
  | .unescapedDollar name =>
    "Error in attribute selector \"" ++ name ++
      "\". Unescaped \"$\" is not supported. Please escape with \"\\$\"."

/-- The lexemes of a selector list. -/
inductive Lexeme
  | notOpen
  | element (name : String)
  | id (name : String)
  | cls (name : String)
  | attr (name value : String)
  | close
  | comma
  deriving DecidableEq, Repr

/-- A character of an element or class name. -/
def isNameChar (c : Char) : Bool := c == '-' || Classes.word c

/-- A character of an attribute name. -/
def isAttrNameChar (c : Char) : Bool :=
  isNameChar c || c == '.' || c == '*' || c == '\\' || c == '$'

/-- What follows a quoted attribute value: the value and the text behind the closing bracket. -/
def quotedValue (quote : Char) (cs : List Char) : Option (List Char × List Char) :=
  match cs.dropWhile (· != quote) with
  | _ :: ']' :: rest => some (cs.takeWhile (· != quote), rest)
  | _ => none

/-- An attribute value up to the next closing bracket. -/
def bareValue (cs : List Char) : Option (List Char × List Char) :=
  match cs.dropWhile (· != ']') with
  | _ :: rest => some (cs.takeWhile (· != ']'), rest)
  | [] => none

/-- An attribute value with the text behind the closing bracket. -/
def attrValue (cs : List Char) : Option (List Char × List Char) :=
  let quoted :=
    match cs with
    | '"' :: inner => quotedValue '"' inner
    | '\'' :: inner => quotedValue '\'' inner
    | _ => none
  quoted.or (bareValue cs)

/-- The attribute part that follows an opening bracket. -/
def attributePart (cs : List Char) : Option (Lexeme × List Char) :=
  let name := cs.takeWhile isAttrNameChar
  if name.isEmpty then none
  else
    match cs.dropWhile isAttrNameChar with
    | ']' :: rest => some (.attr (String.ofList name) "", rest)
    | '=' :: rest =>
      (attrValue rest).map fun (value, rest) =>
        (.attr (String.ofList name) (String.ofList value), rest)
    | _ => none

/-- A name that follows the marker of a part. -/
def namePart (make : String → Lexeme) (cs : List Char) : Option (Lexeme × List Char) :=
  let name := cs.takeWhile isNameChar
  if name.isEmpty then none else some (make (String.ofList name), cs.dropWhile isNameChar)

/-- A comma with the white space around it. -/
def commaPart (cs : List Char) : Option (Lexeme × List Char) :=
  match cs.dropWhile isBlank with
  | ',' :: rest => some (.comma, rest.dropWhile isBlank)
  | _ => none

/-- The lexeme at the start of a text, with what follows it. -/
def lexeme (cs : List Char) : Option (Lexeme × List Char) :=
  match dropLiteral? ":not(".toList cs with
  | some rest => some (.notOpen, rest)
  | none =>
    match cs with
    | '.' :: rest => namePart .cls rest
    | '#' :: rest => namePart .id rest
    | '[' :: rest => attributePart rest
    | ')' :: rest => some (.close, rest)
    | _ => (namePart .element cs).or (commaPart cs)

theorem length_dropWhile_le (p : Char → Bool) (cs : List Char) :
    (cs.dropWhile p).length ≤ cs.length :=
  (List.dropWhile_suffix p).length_le

theorem length_dropWhile_lt {p : Char → Bool} {cs : List Char}
    (h : cs.takeWhile p ≠ []) : (cs.dropWhile p).length < cs.length := by
  have hsum := congrArg List.length (List.takeWhile_append_dropWhile (p := p) (l := cs))
  have hpos := List.length_pos_iff.mpr h
  simp only [List.length_append] at hsum
  omega

theorem quotedValue_length {quote : Char} {cs value rest : List Char}
    (h : quotedValue quote cs = some (value, rest)) : rest.length < cs.length := by
  unfold quotedValue at h
  split at h
  · rename_i heq
    have := length_dropWhile_le (· != quote) cs
    simp_all
    omega
  · simp at h

theorem bareValue_length {cs value rest : List Char}
    (h : bareValue cs = some (value, rest)) : rest.length < cs.length := by
  unfold bareValue at h
  split at h
  · rename_i heq
    have hle := length_dropWhile_le (· != ']') cs
    rw [heq, List.length_cons] at hle
    obtain ⟨_, rfl⟩ := Prod.mk.inj (Option.some.inj h)
    omega
  · simp at h

theorem attrValue_length {cs value rest : List Char}
    (h : attrValue cs = some (value, rest)) : rest.length < cs.length := by
  simp only [attrValue, Option.or_eq_some_iff] at h
  rcases h with h | ⟨_, h⟩
  · split at h
    · simpa using Nat.lt_succ_of_lt (quotedValue_length h)
    · simpa using Nat.lt_succ_of_lt (quotedValue_length h)
    · simp at h
  · exact bareValue_length h

theorem attributePart_length {cs rest : List Char} {t : Lexeme}
    (h : attributePart cs = some (t, rest)) : rest.length < cs.length := by
  simp only [attributePart] at h
  have hle := length_dropWhile_le isAttrNameChar cs
  split at h
  · simp at h
  · split at h
    · rename_i heq
      simp only [Option.some.injEq, Prod.mk.injEq] at h
      simp [heq, ← h.2] at hle ⊢
      omega
    · rename_i heq
      obtain ⟨⟨value, rest'⟩, hv, hr⟩ := Option.map_eq_some_iff.1 h
      have := attrValue_length hv
      simp only [Prod.mk.injEq] at hr
      simp [heq] at hle
      rw [← hr.2]
      omega
    · simp at h

theorem namePart_length {make : String → Lexeme} {cs rest : List Char} {t : Lexeme}
    (h : namePart make cs = some (t, rest)) : rest.length < cs.length := by
  simp only [namePart] at h
  split at h
  · simp at h
  · rename_i hne
    simp only [Option.some.injEq, Prod.mk.injEq] at h
    rw [← h.2]
    exact length_dropWhile_lt (by simpa using hne)

theorem commaPart_length {cs rest : List Char} {t : Lexeme}
    (h : commaPart cs = some (t, rest)) : rest.length < cs.length := by
  unfold commaPart at h
  have hle := length_dropWhile_le isBlank cs
  split at h
  · rename_i r heq
    have := length_dropWhile_le isBlank r
    simp only [Option.some.injEq, Prod.mk.injEq] at h
    simp [heq] at hle
    rw [← h.2]
    omega
  · simp at h

/-- A lexeme takes at least one character. -/
theorem lexeme_length {cs rest : List Char} {t : Lexeme}
    (h : lexeme cs = some (t, rest)) : rest.length < cs.length := by
  unfold lexeme at h
  split at h
  · rename_i r hr
    have := congrArg List.length (eq_append_of_dropLiteral? hr)
    simp only [Option.some.injEq, Prod.mk.injEq] at h
    rw [← h.2, this]
    simp
    omega
  · split at h
    · simpa using Nat.lt_succ_of_lt (namePart_length h)
    · simpa using Nat.lt_succ_of_lt (namePart_length h)
    · simpa using Nat.lt_succ_of_lt (attributePart_length h)
    · simp only [Option.some.injEq, Prod.mk.injEq] at h
      simp [h.2]
    · rcases Option.or_eq_some_iff.1 h with h | ⟨_, h⟩
      · exact namePart_length h
      · exact commaPart_length h

/-- All lexemes of a text. -/
def lexemes (cs : List Char) : List Lexeme :=
  match _h : lexeme cs with
  | some (t, rest) => t :: lexemes rest
  | none =>
    match cs with
    | [] => []
    | _ :: rest => lexemes rest
termination_by cs.length
decreasing_by
  · exact lexeme_length _h
  · simp

/-- An attribute name without its escapes. A `$` has to be escaped. -/
def unescape (name : String) : Except ReadError String :=
  let rec go (escaping : Bool) (out : List Char) : List Char → Except ReadError String
    | [] => .ok (String.ofList out.reverse)
    | c :: cs =>
      if c == '\\' then go true out cs
      else if c == '$' && !escaping then .error (.unescapedDollar name)
      else go false (c :: out) cs
  go false [] name.toList

/-- The selectors read so far, the selector being read, and whether a `:not` is open. -/
structure Progress where
  done : List Selector := []
  current : Selector := {}
  inNot : Bool := false

/-- A change of the innermost selector being read. -/
def Progress.edit (p : Progress) (f : Selector → Selector) : Progress :=
  if p.inNot then
    match p.current.nots.getLast? with
    | some last =>
      { p with current := { p.current with nots := p.current.nots.dropLast ++ [f last] } }
    | none => { p with current := f p.current }
  else { p with current := f p.current }

/-- A selector that consists of `:not` parts alone applies to every element. -/
def complete (s : Selector) : Selector :=
  if !s.nots.isEmpty && s.element.isNone && s.classes.isEmpty && s.attrs.isEmpty then
    { s with element := some "*" }
  else s

/-- One lexeme further. -/
def Progress.step (p : Progress) : Lexeme → Except ReadError Progress
  | .notOpen =>
    if p.inNot then .error .nestedNot
    else
      .ok { p with inNot := true, current := { p.current with nots := p.current.nots ++ [{}] } }
  | .element name => .ok (p.edit (·.setElement name))
  | .id name => .ok (p.edit (·.addAttribute "id" name))
  | .cls name => .ok (p.edit (·.addClass name))
  | .attr name value => do
    let name ← unescape name
    .ok (p.edit (·.addAttribute name value))
  | .close => .ok { p with inNot := false }
  | .comma =>
    if p.inNot then .error .severalInNot
    else .ok { done := p.done ++ [complete p.current] }

/-- The selectors of a selector list. -/
def ofText (text : String) : Except ReadError (List Selector) := do
  let p ← (lexemes text.toList).foldlM Progress.step {}
  return p.done ++ [complete p.current]

end ComponentAtlas.Selector

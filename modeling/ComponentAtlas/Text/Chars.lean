/-!
# Texts as lists of characters

Scanners walk over lists of characters and count bytes of the UTF-8 encoding.

* `byteLength`: the number of bytes of a text;
* `isBlank` and `isAsciiBlank`: white space of Unicode and of markup;
* `trim`, `words`, `pieces`, `splitOnce`: cutting texts;
* `dropLiteral?`, `contains`, `replaceChar`: searching texts.
-/

namespace ComponentAtlas.Text

/-- Number of bytes of the UTF-8 encoding of a text. -/
def byteLength : List Char → Nat
  | [] => 0
  | c :: cs => c.utf8Size + byteLength cs

@[simp] theorem byteLength_nil : byteLength [] = 0 := rfl

@[simp] theorem byteLength_cons (c : Char) (cs : List Char) :
    byteLength (c :: cs) = c.utf8Size + byteLength cs := rfl

@[simp] theorem byteLength_append (as bs : List Char) :
    byteLength (as ++ bs) = byteLength as + byteLength bs := by
  induction as with
  | nil => simp
  | cons a as ih => simp [ih, Nat.add_assoc]

/-- White space of any script. -/
def isBlank (c : Char) : Bool :=
  let n := c.toNat
  (0x09 ≤ n && n ≤ 0x0D) || n == 0x20 || n == 0x85 || n == 0xA0 || n == 0x1680 ||
    (0x2000 ≤ n && n ≤ 0x200A) || n == 0x2028 || n == 0x2029 || n == 0x202F || n == 0x205F ||
    n == 0x3000

/-- White space between the parts of markup: blank, tab, line feed, form feed, carriage return. -/
def isAsciiBlank (c : Char) : Bool :=
  c == ' ' || c == '\t' || c == '\n' || c == '\x0c' || c == '\r'

/-- The text without leading white space. -/
def trimStart (cs : List Char) : List Char := cs.dropWhile isBlank

/-- The text without trailing white space. -/
def trimEnd (cs : List Char) : List Char := (cs.reverse.dropWhile isBlank).reverse

/-- The text without white space at its ends. -/
def trim (cs : List Char) : List Char := trimEnd (trimStart cs)

/-- The string without white space at its ends. -/
def trimmed (s : String) : String := String.ofList (trim s.toList)

/-- The pieces of a text between the characters that satisfy `p`, empty pieces included. -/
def pieces (p : Char → Bool) : List Char → List (List Char)
  | [] => [[]]
  | c :: cs =>
    if p c then [] :: pieces p cs
    else
      match pieces p cs with
      | [] => [[c]]
      | w :: ws => (c :: w) :: ws

/-- The pieces of a string between occurrences of `sep`, empty pieces included. -/
def splitOn (sep : Char) (s : String) : List String :=
  (pieces (· == sep) s.toList).map String.ofList

/-- The words of a string, which white space separates. -/
def words (s : String) : List String :=
  ((pieces isBlank s.toList).filter (fun w => !w.isEmpty)).map String.ofList

/-- The parts before and after the first occurrence of `sep`. -/
def splitOnce (sep : Char) : List Char → Option (List Char × List Char)
  | [] => none
  | c :: cs =>
    if c == sep then some ([], cs)
    else (splitOnce sep cs).map fun (a, b) => (c :: a, b)

/-- The parts before and after the last occurrence of `sep`. -/
def splitLast (sep : Char) (cs : List Char) : Option (List Char × List Char) :=
  (splitOnce sep cs.reverse).map fun (a, b) => (b.reverse, a.reverse)

/-- What follows the literal `lit` at the start of a text. -/
def dropLiteral? : List Char → List Char → Option (List Char)
  | [], cs => some cs
  | _ :: _, [] => none
  | a :: as, c :: cs => if a == c then dropLiteral? as cs else none

theorem eq_append_of_dropLiteral? {lit cs rest : List Char}
    (h : dropLiteral? lit cs = some rest) : cs = lit ++ rest := by
  induction lit generalizing cs with
  | nil => simpa [dropLiteral?] using h
  | cons a as ih =>
    cases cs with
    | nil => simp [dropLiteral?] at h
    | cons c cs =>
      simp only [dropLiteral?] at h
      split at h
      · rename_i hac
        simp [ih h, eq_of_beq hac]
      · simp at h

theorem dropLiteral?_eq_some_iff {lit cs rest : List Char} :
    dropLiteral? lit cs = some rest ↔ cs = lit ++ rest := by
  refine ⟨eq_append_of_dropLiteral?, ?_⟩
  rintro rfl
  induction lit with
  | nil => cases rest <;> rfl
  | cons a lit ih => simpa [dropLiteral?] using ih

/-- What follows the literal `lit` at the start of a string. -/
def dropStart? (lit s : String) : Option String :=
  (dropLiteral? lit.toList s.toList).map String.ofList

/-- What precedes the literal `lit` at the end of a string. -/
def dropEnd? (lit s : String) : Option String :=
  (dropLiteral? lit.toList.reverse s.toList.reverse).map fun r => String.ofList r.reverse

/-- Whether a string begins with a literal. -/
def startsWith (s lit : String) : Bool := (dropStart? lit s).isSome

/-- Whether a string ends with a literal. -/
def endsWith (s lit : String) : Bool := (dropEnd? lit s).isSome

/-- Whether the literal `lit` occurs in a text. -/
def containsLiteral (lit : List Char) : List Char → Bool
  | [] => lit.isEmpty
  | c :: cs => (dropLiteral? lit (c :: cs)).isSome || containsLiteral lit cs

/-- Whether the literal `lit` occurs in a string. -/
def contains (s lit : String) : Bool := containsLiteral lit.toList s.toList

/-- Every occurrence of a character written as the given text. -/
def replaceChar (old : Char) (new : String) (s : String) : String :=
  String.ofList (s.toList.flatMap fun c => if c == old then new.toList else [c])

/-- Number of occurrences of a character. -/
def countChar (c : Char) (s : String) : Nat := s.toList.count c

end ComponentAtlas.Text

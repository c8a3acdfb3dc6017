import ComponentAtlas.Json.Reading
import ComponentAtlas.Text.Identifier

/-!
# Tokens of a script

A scanner step reads one token from a list of characters. Two tokens depend on what stands before
them and are read on demand: a regular expression, which begins like a division, and the
continuation of a template text, which begins like a closing brace. The signs `<` and `>` are always
read alone; where an operator is expected they are joined with what follows.

* `Token`: the tokens;
* `skipTrivia`: white space and comments in front of a token;
* `scan`, `scanPattern`, `scanPiece`: one token, a regular expression, a piece of a template text.
-/

namespace ComponentAtlas.Script

open ComponentAtlas.Text

/-- A token of a script. -/
inductive Token
  /-- An identifier or keyword; a keyword with an escape in it is no keyword. -/
  | word (name : String) (escaped : Bool)
  | hidden (name : String)
  | sign (text : String)
  | string (value : String)
  | number (value : Float)
  | bigint (digits : String)
  | pattern (text : String)
  /-- A piece of a template text, with the mark whether it ends the text. -/
  | piece (value : String) (last : Bool)
  | stop
  /-- What begins no token. -/
  | bad
  deriving Inhabited

/-- A token and the characters behind it. -/
structure Scanned where
  token : Token
  rest : List Char
  deriving Inhabited

/-! ### White space and comments -/

/-- The ends of lines. -/
def isLineEnd (c : Char) : Bool :=
  c == '\n' || c == '\r' || c.toNat == 0x2028 || c.toNat == 0x2029

/-- White space between tokens, ends of lines included. -/
def isGap (c : Char) : Bool :=
  isLineEnd c || c == '\t' || c == '\x0b' || c == '\x0c' || c == ' ' || c.toNat == 0xFEFF ||
    (isBlank c && c.toNat != 0x85)

/-- Where trivia is skipped: at a token, in a comment up to the end of the line, in a comment up to
its closing mark. -/
inductive Trivia
  | between
  | line
  | block
  deriving DecidableEq, Repr

/-- A gap in front of a token: the characters behind it, their byte offset, and whether a line ends
in the gap. A comment that is not closed leaves no characters to read. -/
structure Gap where
  offset : Nat
  newline : Bool
  rest : List Char
  closed : Bool := true
  deriving Inhabited

/-- Skips white space and comments. -/
def skipTrivia (mode : Trivia) (offset : Nat) (newline : Bool) : List Char → Gap
  | [] => ⟨offset, newline, [], mode != .block⟩
  | c :: cs =>
    match mode with
    | .line =>
      if isLineEnd c then skipTrivia .between (offset + c.utf8Size) true cs
      else skipTrivia .line (offset + c.utf8Size) newline cs
    | .block =>
      match c, cs with
      | '*', '/' :: cs' => skipTrivia .between (offset + 2) newline cs'
      | c, cs => skipTrivia .block (offset + c.utf8Size) (newline || isLineEnd c) cs
    | .between =>
      if isGap c then skipTrivia .between (offset + c.utf8Size) (newline || isLineEnd c) cs
      else
        match c, cs with
        | '/', '/' :: cs' => skipTrivia .line (offset + 2) newline cs'
        | '/', '*' :: cs' => skipTrivia .block (offset + 2) newline cs'
        | c, cs => ⟨offset, newline, c :: cs, true⟩

/-! ### Escapes -/

/-- The number written by hexadecimal digits up to a closing brace. -/
def bracedHex (n : Nat) : List Char → Option (Nat × List Char)
  | '\x7d' :: cs => some (n, cs)
  | c :: cs =>
    match Json.hexDigit? c with
    | some d => bracedHex (n * 16 + d) cs
    | none => none
  | [] => none

/-- The code unit or code point of an escape behind its letter `u`. -/
def unicodeEscape (cs : List Char) : Option (Nat × List Char) :=
  match cs with
  | '\x7b' :: '\x7d' :: _ => none
  | '\x7b' :: cs' =>
    match bracedHex 0 cs' with
    | some (n, rest) => if n ≤ 0x10FFFF then some (n, rest) else none
    | none => none
  | a :: b :: c :: d :: rest => (Json.hexValue? a b c d).map (·, rest)
  | _ => none

/-- A code unit that stands alone and is no character is written as a replacement character with its
four digits. -/
def loneUnit (n : Nat) : List Char := Char.ofNat 0xFFFD :: Json.hex4 n

/-- The characters of an escaped code point, given what follows it: the two halves of a surrogate
pair make one character. -/
def unicodeChars (n : Nat) (rest : List Char) : List Char × List Char :=
  if 0xD800 ≤ n && n < 0xDC00 then
    match rest with
    | '\\' :: 'u' :: rest' =>
      match unicodeEscape rest' with
      | some (m, rest'') =>
        if 0xDC00 ≤ m && m < 0xE000 then
          ([Char.ofNat (0x10000 + (n - 0xD800) * 0x400 + (m - 0xDC00))], rest'')
        else (loneUnit n, rest)
      | none => (loneUnit n, rest)
    | _ => (loneUnit n, rest)
  else if 0xDC00 ≤ n && n < 0xE000 then (loneUnit n, rest)
  else ([Char.ofNat n], rest)

/-- The value of an octal digit. -/
def octalDigit? (c : Char) : Option Nat :=
  if '0' ≤ c && c ≤ '7' then some (c.toNat - 48) else none

/-- An escape of up to three octal digits with a value below 256. -/
def octalEscape (cs : List Char) : Option (Nat × List Char) :=
  match cs with
  | [] => none
  | a :: cs1 =>
    match octalDigit? a with
    | none => none
    | some x =>
      match cs1 with
      | [] => some (x, cs1)
      | b :: cs2 =>
        match octalDigit? b with
        | none => some (x, cs1)
        | some y =>
          match cs2 with
          | [] => some (x * 8 + y, cs2)
          | c :: cs3 =>
            match octalDigit? c with
            | some z => if x < 4 then some (x * 64 + y * 8 + z, cs3) else some (x * 8 + y, cs2)
            | none => some (x * 8 + y, cs2)

/-- The characters that an escape behind its backslash stands for; `none` for a malformed escape.
Octal escapes are legal in strings only. -/
def escapeChars (octal : Bool) (cs : List Char) : Option (List Char × List Char) :=
  match cs with
  | [] => none
  | 'n' :: rest => some (['\n'], rest)
  | 't' :: rest => some (['\t'], rest)
  | 'r' :: rest => some (['\r'], rest)
  | 'b' :: rest => some (['\x08'], rest)
  | 'f' :: rest => some (['\x0c'], rest)
  | 'v' :: rest => some (['\x0b'], rest)
  | '\r' :: '\n' :: rest => some ([], rest)
  | 'x' :: a :: b :: rest =>
    match Json.hexDigit? a, Json.hexDigit? b with
    | some m, some n => some ([Char.ofNat (m * 16 + n)], rest)
    | _, _ => none
  | ['x'] => none
  | ['x', _] => none
  | 'u' :: rest => (unicodeEscape rest).map fun (n, rest) => unicodeChars n rest
  | c :: rest =>
    if isLineEnd c then some ([], rest)
    else if c.isDigit then
      if octal then
        match octalEscape (c :: rest) with
        | some (n, rest) => some ([Char.ofNat n], rest)
        | none => some ([c], rest)
      else if c == '0' && !(rest.head?.map Char.isDigit).getD false then some (['\x00'], rest)
      else none
    else some ([c], rest)

/-! ### Strings and template texts -/

/-- The rest of a string behind its opening quote. The fuel bounds the number of characters and
escapes. -/
def stringBody (quote : Char) : Nat → List Char → List Char → Option (List Char × List Char)
  | 0, _, _ => none
  | _ + 1, _, [] => none
  | fuel + 1, out, c :: cs =>
    if c == quote then some (out.reverse, cs)
    else if c == '\\' then
      match escapeChars true cs with
      | some (chars, rest) => stringBody quote fuel (chars.reverse ++ out) rest
      | none => none
    else if c == '\n' || c == '\r' then none
    else stringBody quote fuel (c :: out) cs

/-- A piece of a template text: the characters that it stands for, the characters as written with
line ends made uniform, whether it ends the text, and what follows. -/
structure Piece where
  cooked : Option (List Char)
  raw : List Char
  last : Bool
  rest : List Char

/-- The characters consumed between a text and one of its tails. -/
def consumed (cs rest : List Char) : List Char := cs.take (cs.length - rest.length)

/-- Line ends made uniform. -/
def uniformLines : List Char → List Char
  | '\r' :: '\n' :: cs => '\n' :: uniformLines cs
  | '\r' :: cs => '\n' :: uniformLines cs
  | c :: cs => c :: uniformLines cs
  | [] => []

/-- The rest of a piece of a template text. The accumulators hold reversed what is read so far;
`out` is `none` after a malformed escape. -/
def pieceBody : Nat → Option (List Char) → List Char → List Char → Option Piece
  | 0, _, _, _ => none
  | fuel + 1, out, raw, cs =>
    match cs with
    | [] => none
    | '\u0060' :: rest => some ⟨out.map List.reverse, uniformLines raw.reverse, true, rest⟩
    | '$' :: '\x7b' :: rest => some ⟨out.map List.reverse, uniformLines raw.reverse, false, rest⟩
    | '\\' :: [] => none
    | '\\' :: c :: rest =>
      match escapeChars false (c :: rest) with
      | some (chars, rest') =>
        pieceBody fuel (out.map (chars.reverse ++ ·)) ((consumed (c :: rest) rest').reverse ++ '\\' :: raw) rest'
      | none => pieceBody fuel none (c :: '\\' :: raw) rest
    | '\r' :: '\n' :: rest => pieceBody fuel (out.map ('\n' :: ·)) ('\n' :: '\r' :: raw) rest
    | '\r' :: rest => pieceBody fuel (out.map ('\n' :: ·)) ('\r' :: raw) rest
    | c :: rest => pieceBody fuel (out.map (c :: ·)) (c :: raw) rest

/-- A piece of a template text behind the mark that opens it. A piece with a malformed escape is
kept as written. -/
def scanPiece (cs : List Char) : Scanned :=
  match pieceBody (cs.length + 1) (some []) [] cs with
  | some p => ⟨.piece (String.ofList (p.cooked.getD p.raw)) p.last, p.rest⟩
  | none => ⟨.bad, []⟩

/-! ### Numbers -/

/-- Digits of a number with `_` between them. -/
def digitRun (isDigit : Char → Bool) (cs : List Char) : List Char × List Char :=
  let run := cs.takeWhile fun c => isDigit c || c == '_'
  (run.filter (· != '_'), cs.drop run.length)

/-- The value of digits in a base. -/
def digitsIn (base : Nat) (ds : List Char) : Nat :=
  ds.foldl (fun n d => n * base + (Json.hexDigit? d).getD 0) 0

/-- A number must not run into a name or another digit. -/
def closeNumber (t : Token) (rest : List Char) : Scanned :=
  match rest with
  | c :: _ => if Identifier.isStart c || c.isDigit || c == '\\' then ⟨.bad, rest⟩ else ⟨t, rest⟩
  | [] => ⟨t, rest⟩

/-- A number in base 2, 8 or 16 behind its mark. -/
def radixNumber (base : Nat) (cs : List Char) : Scanned :=
  let (ds, rest) := digitRun (fun c => ((Json.hexDigit? c).map (decide <| · < base)).getD false) cs
  if ds.isEmpty then ⟨.bad, cs⟩
  else
    match rest with
    | 'n' :: rest' => closeNumber (.bigint (toString (digitsIn base ds))) rest'
    | _ => closeNumber (.number (Float.ofNat (digitsIn base ds))) rest

/-- The exponent at the start of a text, if a well-formed one stands there. -/
def exponentPart (cs : List Char) : Option (Int × List Char) :=
  match cs with
  | c :: rest =>
    if c == 'e' || c == 'E' then
      let (negative, rest) := match rest with
        | '-' :: r => (true, r)
        | '+' :: r => (false, r)
        | r => (false, r)
      let (ds, rest) := digitRun Char.isDigit rest
      if ds.isEmpty then none
      else
        let n : Int := digitsIn 10 ds
        some (if negative then -n else n, rest)
    else none
  | [] => none

/-- The number `whole.fraction · 10 ^ exponent`. -/
def decimalValue (whole fraction : List Char) (exponent : Int) : Float :=
  let scale := exponent - Int.ofNat fraction.length
  Float.ofScientific (digitsIn 10 (whole ++ fraction)) (scale < 0) scale.natAbs

/-- A decimal number. -/
def decimalNumber (cs : List Char) : Scanned :=
  let (whole, rest) := digitRun Char.isDigit cs
  match rest with
  | 'n' :: rest' => closeNumber (.bigint (String.ofList whole)) rest'
  | _ =>
    let (fraction, rest) := match rest with
      | '.' :: r => digitRun Char.isDigit r
      | r => ([], r)
    match exponentPart rest with
    | some (e, rest) => closeNumber (.number (decimalValue whole fraction e)) rest
    | none => closeNumber (.number (decimalValue whole fraction 0)) rest

/-- A number. A leading zero in front of octal digits marks an octal number. -/
def scanNumber (cs : List Char) : Scanned :=
  match cs with
  | '0' :: c :: rest =>
    if c == 'x' || c == 'X' then radixNumber 16 rest
    else if c == 'o' || c == 'O' then radixNumber 8 rest
    else if c == 'b' || c == 'B' then radixNumber 2 rest
    else if c.isDigit then
      let run := (c :: rest).takeWhile Char.isDigit
      if run.all fun d => (octalDigit? d).isSome then
        closeNumber (.number (Float.ofNat (digitsIn 8 run))) ((c :: rest).drop run.length)
      else decimalNumber cs
    else decimalNumber cs
  | _ => decimalNumber cs

/-! ### Names -/

/-- The rest of a name with the mark whether it has an escape. -/
def nameBody : Nat → List Char → Bool → List Char → Option (List Char × Bool × List Char)
  | 0, _, _, _ => none
  | fuel + 1, out, escaped, cs =>
    match cs with
    | '\\' :: 'u' :: rest =>
      match unicodeEscape rest with
      | some (n, rest) =>
        let c := Char.ofNat n
        if (if out.isEmpty then Identifier.isStart c else Identifier.isPart c) then
          nameBody fuel (c :: out) true rest
        else none
      | none => none
    | c :: rest =>
      if (if out.isEmpty then Identifier.isStart c else Identifier.isPart c) then
        nameBody fuel (c :: out) escaped rest
      else some (out.reverse, escaped, c :: rest)
    | [] => some (out.reverse, escaped, [])

/-- A name, or nothing that begins a token. -/
def scanName (make : String → Bool → Token) (cs : List Char) : Scanned :=
  match nameBody (cs.length + 1) [] false cs with
  | some ([], _, _) => ⟨.bad, cs⟩
  | some (name, escaped, rest) => ⟨make (String.ofList name) escaped, rest⟩
  | none => ⟨.bad, cs⟩

/-! ### Signs -/

/-- The signs of more than one character, longer ones before their own beginnings. -/
def longSigns : List (List Char) :=
  ["...", "===", "!==", "**=", "&&=", "||=", "??=", "=>", "==", "!=", "++", "--", "+=", "-=", "**",
   "*=", "/=", "%=", "&&", "||", "??", "&=", "|=", "^="].map String.toList

/-- The characters that are signs. -/
def singleSigns : List Char := "\x7b\x7d()[];,~:@?.<>=!+-*/%&|^".toList

/-- A sign. -/
def scanSign (cs : List Char) : Scanned :=
  let long := longSigns.findSome? fun s => (dropLiteral? s cs).map fun rest => Scanned.mk (.sign (String.ofList s)) rest
  match long, cs with
  | some s, _ => s
  | none, c :: rest =>
    match c, rest with
    | '?', '.' :: rest' =>
      -- in front of a digit the point belongs to a number
      if (rest'.head?.map Char.isDigit).getD false then ⟨.sign "?", rest⟩ else ⟨.sign "?.", rest'⟩
    | c, rest =>
      if singleSigns.contains c then ⟨.sign (String.singleton c), rest⟩ else ⟨.bad, cs⟩
  | none, [] => ⟨.stop, []⟩

/-- The token at the start of a text without trivia. -/
def scan (cs : List Char) : Scanned :=
  match cs with
  | [] => ⟨.stop, []⟩
  | c :: rest =>
    if Identifier.isStart c || c == '\\' then scanName .word cs
    else if c.isDigit then scanNumber cs
    else if c == '"' || c == '\'' then
      match stringBody c (rest.length + 1) [] rest with
      | some (value, rest) => ⟨.string (String.ofList value), rest⟩
      | none => ⟨.bad, []⟩
    else if c == '\u0060' then scanPiece rest
    else if c == '#' then scanName (fun name _ => .hidden name) rest
    else if c == '.' && (rest.head?.map Char.isDigit).getD false then decimalNumber cs
    else scanSign cs

/-- The rest of a regular expression behind its opening slash; inside brackets a slash does not
close it. -/
def patternBody (inClass : Bool) : List Char → Option (List Char)
  | [] => none
  | c :: cs =>
    if isLineEnd c then none
    else if c == '\\' then
      match cs with
      | d :: cs' => if isLineEnd d then none else patternBody inClass cs'
      | [] => none
    else if c == '[' then patternBody true cs
    else if c == ']' then patternBody false cs
    else if c == '/' && !inClass then some cs
    else patternBody inClass cs

/-- A regular expression with its flags. -/
def scanPattern (cs : List Char) : Scanned :=
  match patternBody false (cs.drop 1) with
  | some rest =>
    let rest := rest.dropWhile Identifier.isPart
    ⟨.pattern (String.ofList (consumed cs rest)), rest⟩
  | none => ⟨.bad, []⟩

end ComponentAtlas.Script

/-!
# File patterns

A pattern such as `/app/**/*.ts` selects files. A star stands for any characters, a double star that
fills a segment for any number of whole segments, a question mark for one character, and brackets
for one character of a class.

* `Glob.ofText?`: the pattern that a text denotes, nothing for a malformed one;
* `Glob.matches`: whether a path fits a pattern.
-/

namespace ComponentAtlas

namespace Glob

/-- A part of a pattern. -/
inductive Part
  | char (c : Char)
  | anyChar
  | anySequence
  | anySegments
  /-- A class of characters, given by closed ranges. -/
  | within (ranges : List (Char × Char))
  | except (ranges : List (Char × Char))
  deriving DecidableEq, Repr, Inhabited

/-- The ranges of a class: a dash between two characters makes a range of them. -/
def classRanges : List Char → List (Char × Char)
  | a :: '-' :: b :: rest => (a, b) :: classRanges rest
  | a :: rest => (a, a) :: classRanges rest
  | [] => []

/-- The members of a class and what follows its closing bracket. The first member is never the
closing bracket. -/
def splitClass (cs : List Char) : Option (List Char × List Char) :=
  match cs with
  | [] => none
  | c :: rest =>
    let members := rest.takeWhile (· != ']')
    match rest.drop members.length with
    | [] => none
    | _ :: after => some (c :: members, after)

/-- The parts of a pattern. `previous` is the character in front of the text, `parts` holds the
parts in front of it in reverse. Every step uses at least one character. -/
def readParts (previous : Option Char) (parts : List Part) : Nat → List Char → Option (List Part)
  | 0, _ => none
  | _ + 1, [] => some parts.reverse
  | fuel + 1, c :: cs =>
    match c with
    | '?' => readParts (some c) (.anyChar :: parts) fuel cs
    | '*' =>
      match cs with
      | '*' :: '*' :: _ => none
      | '*' :: after =>
        if previous.isSome && previous != some '/' then none
        else
          -- adjacent runs of segments count once, unless nothing stands in front of the first
          let parts' :=
            if parts.length > 1 && parts.head? == some .anySegments then parts else .anySegments :: parts
          match after with
          | [] => some parts'.reverse
          | '/' :: rest => readParts (some '/') parts' fuel rest
          | _ => none
      | _ => readParts (some c) (.anySequence :: parts) fuel cs
    | '[' =>
      match cs with
      | '!' :: inner =>
        match splitClass inner with
        | some (members, rest) => readParts (some ']') (.except (classRanges members) :: parts) fuel rest
        | none => none
      | inner =>
        match splitClass inner with
        | some (members, rest) => readParts (some ']') (.within (classRanges members) :: parts) fuel rest
        | none => none
    | c => readParts (some c) (.char c :: parts) fuel cs

/-- How the attempt to fit a text ends: it fits; it does not; it is too short, so that no longer
match of an earlier part can help. -/
inductive Fit
  | fits
  | differs
  | exhausted
  deriving DecidableEq, Repr

/-- Whether one character fits a part that stands for one character. -/
def Part.accepts (c : Char) : Part → Bool
  | .char d => c == d
  | .anyChar => true
  | .within rs => rs.any fun r => r.1 ≤ c && c ≤ r.2
  | .except rs => !rs.any fun r => r.1 ≤ c && c ≤ r.2
  | .anySequence | .anySegments => false

/-- Tries the ends at which a part for several characters may stop: everywhere, or behind a
separator only. -/
def tryEnds (segments : Bool) (rest : List Char → Fit) : List Char → Fit
  | [] => rest []
  | c :: cs =>
    if segments && c != '/' then tryEnds segments rest cs
    else
      match rest cs with
      | .differs => tryEnds segments rest cs
      | fit => fit

/-- Whether a text fits a list of parts. -/
def fit : List Part → List Char → Fit
  | [], cs => if cs.isEmpty then .fits else .differs
  | .anySequence :: parts, cs =>
    match fit parts cs with
    | .differs => tryEnds false (fit parts) cs
    | f => f
  | .anySegments :: parts, cs =>
    match fit parts cs with
    | .differs => tryEnds true (fit parts) cs
    | f => f
  | _ :: _, [] => .exhausted
  | part :: parts, c :: cs => if part.accepts c then fit parts cs else .differs

end Glob

/-- A pattern for paths. -/
structure Glob where
  parts : List Glob.Part
  deriving DecidableEq, Repr, Inhabited

/-- The pattern that a text denotes, nothing for a malformed one. -/
def Glob.ofText? (text : String) : Option Glob :=
  (Glob.readParts none [] (text.length + 1) text.toList).map Glob.mk

/-- Whether a path fits a pattern. -/
def Glob.matches (g : Glob) (path : String) : Bool := Glob.fit g.parts path.toList == .fits

end ComponentAtlas

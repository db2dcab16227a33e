import Clientwright.Yaml.Cursor

/-!
# Scanning scalars

A scalar is scanned in pieces: solid text, and the gaps of blanks and line breaks between. A gap
within a line stays; a gap with a line break is folded, so that one break becomes a space and more
of them lose the first.
-/

namespace Clientwright.Yaml

/-- What stands for a gap of blanks and breaks inside a scalar. -/
def foldGap (gap : List Char) : List Char :=
  match gap.filter isBreak with
  | [] => gap
  | '\n' :: [] => [' ']
  | '\n' :: more => more
  | breaks => breaks

/-- Is the character part of a gap? -/
def isGap (c : Char) : Bool := isBlank c || isBreak c

/-- The character for an escape of one letter. -/
def escape? : Char → Option Char
  | '0' => some '\x00'
  | 'a' => some '\x07'
  | 'b' => some '\x08'
  | 't' | '\t' => some '\t'
  | 'n' => some '\n'
  | 'v' => some '\x0b'
  | 'f' => some '\x0c'
  | 'r' => some '\r'
  | 'e' => some '\x1b'
  | ' ' => some ' '
  | '"' => some '"'
  | '/' => some '/'
  | '\\' => some '\\'
  | 'N' => some '\u0085'
  | '_' => some '\u00a0'
  | 'L' => some '\u2028'
  | 'P' => some '\u2029'
  | _ => none

/-- The number of digits of an escape by code point. -/
def escapeWidth? : Char → Option Nat
  | 'x' => some 2
  | 'u' => some 4
  | 'U' => some 8
  | _ => none

/-- The value of a hexadecimal digit. -/
def hexValue? (c : Char) : Option Nat :=
  if c.isDigit then some (c.toNat - '0'.toNat)
  else if 'a' ≤ c && c ≤ 'f' then some (c.toNat - 'a'.toNat + 10)
  else if 'A' ≤ c && c ≤ 'F' then some (c.toNat - 'A'.toNat + 10)
  else none

/-- The number that hexadecimal digits stand for. -/
def hexNumber? (digits : List Char) : Option Nat :=
  digits.foldlM (fun n d => (hexValue? d).map (16 * n + ·)) 0

/-- The character of a code point that is one. -/
def charOf? (n : Nat) : Option Char :=
  if n < 0xD800 || (0xDFFF < n && n < 0x110000) then some (Char.ofNat n) else none

/-- The character for the escape at a backslash, and the position after it. -/
def escapeAt? (c : Cursor) : Option (Char × Cursor) :=
  match c.rest with
  | _ :: letter :: rest =>
    match escapeWidth? letter with
    | some width => do
      let digits := rest.take width
      if digits.length < width then none
      let char ← charOf? (← hexNumber? digits)
      return (char, c.skipBy (width + 2))
    | none => (escape? letter).map (·, c.skipBy 2)
  | _ => none

/-- Scans the rest of a quoted scalar; `text` is what was found so far, last character first. -/
def quotedFrom (double : Bool) : Nat → Cursor → List Char → Option (List Char × Cursor)
  | 0, _, _ => none
  | fuel + 1, c, text =>
    if c.atDocumentMarker then none
    else
      match c.rest with
      | [] => none
      | d :: _ =>
        if isGap d then
          quotedFrom double fuel (c.drop isGap) ((foldGap (c.take isGap)).reverse ++ text)
        else if double then
          if d = '"' then some (text.reverse, c.skip)
          else if d = '\\' then
            if c.seesAny isBreak 1 then
              let c := c.skip.skip
              quotedFrom double fuel (c.drop isGap)
                (((c.take isGap).filter isBreak).reverse ++ text)
            else
              match escapeAt? c with
              | some (char, c) => quotedFrom double fuel c (char :: text)
              | none => none
          else quotedFrom double fuel c.skip (d :: text)
        else if d = '\'' then
          if c.sees '\'' 1 then quotedFrom double fuel c.skip.skip ('\'' :: text)
          else some (text.reverse, c.skip)
        else quotedFrom double fuel c.skip (d :: text)

/-- Scans a quoted scalar, starting at its first quote. -/
def scanQuoted (double : Bool) (c : Cursor) : Option (List Char × Cursor) :=
  quotedFrom double c.fuel c.skip []

/-- Does the character open or close a collection in brackets, or separate its entries? -/
def isFlowMark (c : Char) : Bool := c = ',' || c = '[' || c = ']' || c = '\x7b' || c = '\x7d'

/-- Scans solid text of a plain scalar. -/
def plainSolid (inFlow : Bool) : Nat → Cursor → List Char → Option (List Char × Cursor)
  | 0, _, _ => none
  | fuel + 1, c, text =>
    match c.rest with
    | [] => some (text, c)
    | d :: _ =>
      if isGap d then some (text, c)
      else if inFlow && d = ':' && c.seesAny (fun e => isFlowMark e || e = '?') 1 then none
      else if (d = ':' && c.isOpen 1) || (inFlow && isFlowMark d) then some (text, c)
      else plainSolid inFlow fuel c.skip (d :: text)

/-- Passes over a gap after a plain scalar; a tab may not stand in for indentation. -/
def plainGap (indent : Nat) : Nat → Cursor → Bool → Option Cursor
  | 0, _, _ => none
  | fuel + 1, c, broken =>
    match c.rest with
    | [] => some c
    | d :: _ =>
      if isBreak d then plainGap indent fuel c.skip true
      else if isBlank d then
        if broken && c.column < indent && d = '\t' then none
        else plainGap indent fuel c.skip broken
      else some c

/-- A scanned plain scalar. -/
structure Plain where
  text : List Char
  cursor : Cursor
  /-- is there a line break after it? -/
  broken : Bool

/-- Scans the rest of a plain scalar; `gap` is what lies between the text so far, last character
first, and the cursor. -/
def plainFrom (inFlow : Bool) (indent : Nat) : Nat → Cursor → List Char → List Char → Option Plain
  | 0, _, _, _ => none
  | fuel + 1, c, text, gap =>
    let broken := gap.any isBreak
    if c.atDocumentMarker || c.sees '#' then some ⟨text.reverse, c, broken⟩
    else
      match plainSolid inFlow c.fuel c [] with
      | none => none
      | some ([], c) => some ⟨text.reverse, c, broken⟩
      | some (solid, c) =>
        let text := solid ++ (foldGap gap).reverse ++ text
        let gap := c.take isGap
        match plainGap indent c.fuel c false with
        | none => none
        | some c =>
          if gap.isEmpty || (!inFlow && c.column < indent) then
            some ⟨text.reverse, c, gap.any isBreak⟩
          else plainFrom inFlow indent fuel c text gap

/-- Scans a plain scalar. -/
def scanPlain (inFlow : Bool) (indent : Nat) (c : Cursor) : Option Plain :=
  plainFrom inFlow indent c.fuel c [] []

/-- What happens to the line breaks at the end of a block scalar. -/
inductive Chomping where
  | clip
  | strip
  | keep
  deriving DecidableEq, Repr

/-- The marks behind the indicator of a block scalar: chomping, and indentation if it is given. -/
structure BlockHeader where
  chomping : Chomping
  indent : Option Nat
  deriving DecidableEq, Repr

/-- The chomping that a mark asks for. -/
def chomping? : Char → Option Chomping
  | '+' => some .keep
  | '-' => some .strip
  | _ => none

/-- The indentation that a digit asks for. -/
def indentMark? (c : Char) : Option Nat := if c.isDigit then some (c.toNat - '0'.toNat) else none

/-- Reads the marks behind the indicator, in either order. -/
def blockHeader (c : Cursor) : Option (BlockHeader × Cursor) :=
  let mark (c : Cursor) (i : Nat) := c.rest[i]?
  let header (chomping : Chomping) (indent : Option Nat) (n : Nat) :=
    if indent = some 0 then none else some (⟨chomping, indent⟩, c.skipBy n)
  match (mark c 0).bind chomping? with
  | some chomping =>
    match (mark c 1).bind indentMark? with
    | some n => header chomping (some n) 2
    | none => header chomping none 1
  | none =>
    match (mark c 0).bind indentMark? with
    | some n =>
      match (mark c 1).bind chomping? with
      | some chomping => header chomping (some n) 2
      | none => header .clip (some n) 1
    | none => header .clip none 0

/-- Empty lines of a block scalar: their breaks, the position after them and after the indentation,
and the deepest column reached. As long as the indentation is not known, all spaces belong to it. -/
def blockBreaks (indent : Option Nat) : Nat → Cursor → List Char → Nat →
    Option (List Char × Cursor × Nat)
  | 0, _, _, _ => none
  | fuel + 1, c, breaks, deepest =>
    let spaces := (c.take (· = ' ')).length
    let c := c.skipBy (match indent with
      | some n => min spaces (n - c.column)
      | none => spaces)
    let deepest := max deepest c.column
    if c.sees '\t' && indent.all (c.column < ·) then none
    else if c.seesAny isBreak then
      blockBreaks indent fuel c.skip (breaks ++ c.rest.take 1) deepest
    else some (breaks, c, deepest)

/-- The lines of a block scalar. `text` is what was found so far; `leading` is the break after the
last line, `breaks` are those of the empty lines after it, and `blank` tells whether that line began
with a blank. -/
def blockLines (folded : Bool) (chomping : Chomping) (indent : Nat) :
    Nat → Cursor → List Char → List Char → List Char → Bool → Option (List Char × Cursor)
  | 0, _, _, _, _, _ => none
  | fuel + 1, c, text, leading, breaks, blank =>
    if c.column = indent && !c.rest.isEmpty then
      let startsBlank := c.seesAny isBlank
      let joined :=
        if folded && leading = ['\n'] && !blank && !startsBlank then
          if breaks.isEmpty then [' '] else breaks
        else leading ++ breaks
      let line := c.take (fun d => !isBreak d)
      let c := c.drop (fun d => !isBreak d)
      let ending := c.rest.take 1
      match blockBreaks (some indent) c.fuel c.skip [] 0 with
      | none => none
      | some (breaks, c, _) =>
        blockLines folded chomping indent fuel c (text ++ joined ++ line) ending breaks startsBlank
    else
      some (match chomping with
        | .strip => text
        | .clip => text ++ leading
        | .keep => text ++ leading ++ breaks, c)

/-- Scans a block scalar at its indicator; `outer` is the column of the collection around it. -/
def scanBlock (folded : Bool) (outer : Option Nat) (c : Cursor) : Option (List Char × Cursor) := do
  let (header, c) ← blockHeader c.skip
  let c ← c.lineEnd?
  let given := header.indent.map (outer.getD 0 + ·)
  let (breaks, c, deepest) ← blockBreaks given c.fuel c [] 0
  let least :=
    match outer with
    | some n => max 1 (n + 1)
    | none => 1
  let indent := given.getD (max deepest least)
  blockLines folded header.chomping indent c.fuel c [] [] breaks false

end Clientwright.Yaml

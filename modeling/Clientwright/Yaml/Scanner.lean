import Clientwright.Yaml.Node
import Clientwright.Yaml.Properties

/-!
# Scanning tokens

The scanner turns a text into tokens, with tokens of their own for where block collections start and
end. Whether something is a key shows only at the colon after it. So every place that may be a key
is remembered, and at the colon the missing tokens are put in before the tokens that are there
already.
-/

namespace Clientwright.Yaml

/-- The tokens of a YAML text. -/
inductive Token where
  | directive (d : Directive)
  | documentStart
  | documentEnd
  | sequenceStart
  | mappingStart
  | blockEnd
  | flowSequenceStart
  | flowSequenceEnd
  | flowMappingStart
  | flowMappingEnd
  | entry
  | flowEntry
  | key
  | value
  | reference (name : String)
  | anchor (name : String)
  | tag (name : TagName)
  | scalar (text : String) (style : Style)
  | streamEnd
  deriving DecidableEq, Repr

/-- A place that may turn out to be a key: the number of its first token, and its position. -/
structure KeyPlace where
  token : Nat
  line : Nat
  column : Nat
  index : Nat
  /-- must there be a key here, because nothing else may stand at this column? -/
  isRequired : Bool
  deriving DecidableEq, Repr

/-- The state of a scan. -/
structure Scanner where
  cursor : Cursor
  /-- the tokens so far, the last one first -/
  tokens : List Token
  /-- the columns of the block collections around the cursor, the innermost first -/
  columns : List Nat
  /-- the place that may be a key in the innermost flow collection, or outside of any -/
  place : Option KeyPlace
  /-- the same for the collections around it -/
  outer : List (Option KeyPlace)
  /-- may a key start at the cursor? -/
  keyAllowed : Bool

namespace Scanner

/-- A scan before its first token. -/
def start (s : List Char) : Scanner where
  cursor := .start s
  tokens := []
  columns := []
  place := none
  outer := []
  keyAllowed := true

/-- Is the cursor inside a flow collection? -/
def inFlow (s : Scanner) : Bool := !s.outer.isEmpty

/-- The scan with one token more. -/
def push (s : Scanner) (t : Token) : Scanner := { s with tokens := t :: s.tokens }

/-- The scan with a token put in as number `n`. -/
def insert (s : Scanner) (n : Nat) (t : Token) : Scanner :=
  let later := s.tokens.length - n
  { s with tokens := s.tokens.take later ++ t :: s.tokens.drop later }

/-- The scan at another position. -/
def goto (s : Scanner) (c : Cursor) : Scanner := { s with cursor := c }

/-- The scan with the decision whether a key may start. -/
def allowKey (s : Scanner) (b : Bool) : Scanner := { s with keyAllowed := b }

/-- The indentation that a block collection at a column needs to be inside all others. -/
def isDeeper (s : Scanner) (column : Nat) : Bool :=
  match s.columns with
  | [] => true
  | n :: _ => n < column

/-- Starts a block collection at a column that is deeper than the ones around it. -/
def roll (s : Scanner) (column number : Nat) (t : Token) : Scanner :=
  if !s.inFlow && s.isDeeper column then
    { s with columns := column :: s.columns }.insert number t
  else s

/-- Starts a block collection at the cursor. -/
def rollHere (s : Scanner) (t : Token) : Scanner := s.roll s.cursor.column s.tokens.length t

/-- Ends the block collections that are deeper than a bound. -/
def unrollWhile (s : Scanner) (deeper : Nat → Bool) : Scanner :=
  if s.inFlow then s
  else
    let ended := s.columns.takeWhile deeper
    { s with
      columns := s.columns.dropWhile deeper
      tokens := List.replicate ended.length .blockEnd ++ s.tokens }

/-- Ends the block collections that are deeper than the cursor. -/
def unroll (s : Scanner) : Scanner := s.unrollWhile fun n => s.cursor.column < n

/-- Ends all block collections. -/
def unrollAll (s : Scanner) : Scanner := s.unrollWhile fun _ => true

/-- Gives up the place that may be a key. -/
def dropPlace (s : Scanner) : Option Scanner :=
  match s.place with
  | some p => if p.isRequired then none else some { s with place := none }
  | none => some s

/-- Remembers the cursor as a place that may be a key, if one may start there. -/
def savePlace (s : Scanner) : Option Scanner :=
  if s.keyAllowed then do
    let c := s.cursor
    let isRequired := !s.inFlow && s.columns.head? = some c.column
    let s ← s.dropPlace
    return { s with place := some ⟨s.tokens.length, c.line, c.column, c.index, isRequired⟩ }
  else some s

/-- Is a place too far behind to be a key? -/
def isStale (c : Cursor) (p : KeyPlace) : Bool := p.line < c.line || p.index + 1024 < c.index

/-- A place that may still be a key, if it is not too far behind. -/
def freshPlace (c : Cursor) : Option KeyPlace → Option (Option KeyPlace)
  | some p =>
    if isStale c p then if p.isRequired then none else some none
    else some (some p)
  | none => some none

/-- Gives up all places that are too far behind. -/
def dropStale (s : Scanner) : Option Scanner := do
  let place ← freshPlace s.cursor s.place
  let outer ← s.outer.mapM (freshPlace s.cursor)
  return { s with place, outer }

/-- Passes over blanks, comments and line breaks before a token. -/
def passBlanks : Nat → Scanner → Scanner
  | 0, s => s
  | fuel + 1, s =>
    let c := s.cursor
    let c := if c.column = 0 && c.sees '\ufeff' then c.skip else c
    let c := c.drop fun d => d = ' ' || (d = '\t' && (s.inFlow || !s.keyAllowed))
    let c := if c.sees '#' then c.drop (fun d => !isBreak d) else c
    if c.seesAny isBreak then
      passBlanks fuel { s with cursor := c.skip, keyAllowed := s.keyAllowed || !s.inFlow }
    else s.goto c

/-- A token of `n` characters. -/
def simple (s : Scanner) (t : Token) (n : Nat := 1) : Scanner :=
  (s.push t).goto (s.cursor.skipBy n)

/-- A token that belongs to the document as a whole. -/
def outside (s : Scanner) (scan : Scanner → Option Scanner) : Option Scanner := do
  let s ← s.unrollAll.dropPlace
  scan (s.allowKey false)

/-- The start of a flow collection. -/
def openFlow (s : Scanner) (t : Token) : Option Scanner := do
  let s ← s.savePlace
  return { s with place := none, outer := s.place :: s.outer, keyAllowed := true }.simple t

/-- The end of a flow collection. -/
def closeFlow (s : Scanner) (t : Token) : Option Scanner := do
  let s ← s.dropPlace
  let s :=
    match s.outer with
    | place :: outer => { s with place, outer }
    | [] => s
  return (s.allowKey false).simple t

/-- A comma in a flow collection. -/
def flowEntry (s : Scanner) : Option Scanner := do
  let s ← s.dropPlace
  return (s.allowKey true).simple .flowEntry

/-- The indicator of an entry or of a key, which starts a block collection if none is there yet. -/
def blockEntry (s : Scanner) (collection t : Token) (keyAfter : Bool) : Option Scanner := do
  if !s.inFlow && !s.keyAllowed then none
  let s ← (s.rollHere collection).dropPlace
  return (s.allowKey keyAfter).simple t

/-- The indicator of a value. -/
def valueMark (s : Scanner) : Option Scanner :=
  match s.place with
  | some p =>
    let s := (s.insert p.token .key).roll p.column p.token .mappingStart
    some (({ s with place := none }.allowKey false).simple .value)
  | none =>
    if !s.inFlow && !s.keyAllowed then none
    else some (((s.rollHere .mappingStart).allowKey (!s.inFlow)).simple .value)

/-- A token that may be the start of a key. -/
def keyed (s : Scanner) (scan : Cursor → Option (Token × Cursor)) : Option Scanner := do
  let s ← s.savePlace
  let (t, c) ← scan s.cursor
  return ((s.allowKey false).push t).goto c

/-- A quoted scalar. -/
def quoted (s : Scanner) (double : Bool) : Option Scanner :=
  s.keyed fun c => do
    let (text, c) ← scanQuoted double c
    return (.scalar (String.ofList text) (if double then .doubleQuoted else .singleQuoted), c)

/-- A block scalar. -/
def block (s : Scanner) (folded : Bool) : Option Scanner := do
  let s ← s.dropPlace
  let (text, c) ← scanBlock folded s.columns.head? s.cursor
  let t := Token.scalar (String.ofList text) (if folded then .folded else .literal)
  return ((s.allowKey true).push t).goto c

/-- A plain scalar. -/
def plain (s : Scanner) : Option Scanner := do
  let s ← s.savePlace
  let indent :=
    match s.columns with
    | n :: _ => n + 1
    | [] => 0
  let p ← scanPlain s.inFlow indent s.cursor
  return ((s.allowKey p.broken).push (.scalar (String.ofList p.text) .plain)).goto p.cursor

/-- Characters that mean something at the start of a token. -/
def indicators : List Char := "-?:,[]\x7b\x7d#&*!|>'\"%@`".toList

/-- May a plain scalar start at the cursor? -/
def startsPlain (s : Scanner) : Bool :=
  let c := s.cursor
  (!c.isOpen && !c.seesAny indicators.contains) ||
    (c.sees '-' && !c.seesAny isBlank 1) ||
    (!s.inFlow && (c.sees '?' || c.sees ':') && !c.isOpen 1)

/-- Scans the token at the cursor. -/
def token (s : Scanner) : Option Scanner :=
  let c := s.cursor
  if c.column = 0 && c.sees '%' then s.outside fun s => do
    let (d, c) ← scanDirective s.cursor
    return (s.push (.directive d)).goto c
  else if c.atMarker '-' then s.outside fun s => some (s.simple .documentStart 3)
  else if c.atMarker '.' then s.outside fun s => some (s.simple .documentEnd 3)
  else if c.sees '[' then s.openFlow .flowSequenceStart
  else if c.sees '\x7b' then s.openFlow .flowMappingStart
  else if c.sees ']' then s.closeFlow .flowSequenceEnd
  else if c.sees '\x7d' then s.closeFlow .flowMappingEnd
  else if c.sees ',' then s.flowEntry
  else if c.sees '-' && c.isOpen 1 then s.blockEntry .sequenceStart .entry true
  else if c.sees '?' && (s.inFlow || c.isOpen 1) then s.blockEntry .mappingStart .key (!s.inFlow)
  else if c.sees ':' && (s.inFlow || c.isOpen 1) then s.valueMark
  else if c.sees '*' then s.keyed fun c => (scanName c).map fun (name, c) => (.reference name, c)
  else if c.sees '&' then s.keyed fun c => (scanName c).map fun (name, c) => (.anchor name, c)
  else if c.sees '!' then s.keyed fun c => (scanTag s.inFlow c).map fun (tag, c) => (.tag tag, c)
  else if c.sees '|' && !s.inFlow then s.block false
  else if c.sees '>' && !s.inFlow then s.block true
  else if c.sees '\'' then s.quoted false
  else if c.sees '"' then s.quoted true
  else if s.startsPlain then s.plain
  else none

/-- The last token, at the end of the text. -/
def finish (s : Scanner) : Option Scanner := do
  let s ← (s.unrollWhile fun _ => true).dropPlace
  return s.push .streamEnd

/-- Scans the rest of the text. -/
def run : Nat → Scanner → Option Scanner
  | 0, _ => none
  | fuel + 1, s => do
    let s ← (passBlanks s.cursor.fuel s).dropStale
    let s := s.unroll
    if s.cursor.rest.isEmpty then s.finish
    else run fuel (← s.token)

end Scanner

/-- The tokens of a text. -/
def tokens? (text : String) : Option (List Token) :=
  let s := dropMark text.toList
  if s.all isAllowed then
    let s := normalizeBreaks s
    (Scanner.run (s.length + 1) (.start s)).map fun s => s.tokens.reverse
  else none

end Clientwright.Yaml

import Clientwright.Json.Basic

/-!
# Reading JSON text

The reader passes over the text once, character by character. Its state has two halves: the token
that is being read, and the arrays and objects that are open around it. Each character is one
`step`, so reading is a fold: it always ends, and no text nests too deeply for it.

Every text in the grammar is accepted, also where a string escapes half of a surrogate pair or a
number is too large for any machine type. Such a value is `garbled`, or a number that later has no
reading, and it matters only to who wants its value.
-/

namespace Clientwright.Json

/-- Part of a string: a character, or half of a surrogate pair written as an escape. -/
inductive Unit16 where
  | char (c : Char)
  | surrogate (n : Nat)
  deriving DecidableEq, Repr

/-- The text that the parts denote; a surrogate counts only as the half of a pair. -/
def textOf : List Unit16 → Option (List Char)
  | [] => some []
  | .char c :: rest => (textOf rest).map (c :: ·)
  | .surrogate hi :: .surrogate lo :: rest =>
    if hi < 0xDC00 ∧ 0xDC00 ≤ lo then
      (textOf rest).map (Char.ofNat (0x10000 + (hi - 0xD800) * 0x400 + (lo - 0xDC00)) :: ·)
    else none
  | [.surrogate _] => none
  | .surrogate _ :: .char _ :: _ => none

/-- What a string is about to read. -/
inductive StringMode where
  /-- characters that stand for themselves -/
  | plain
  /-- the letter after a backslash -/
  | escape
  /-- the hexadecimal digits after `\u`, of which `read` are behind and make `value` -/
  | hex (read value : Nat)

/-- The token that is being read. -/
inductive Scan where
  | between
  | string (parts : List Unit16) (mode : StringMode)
  | number (text : List Char)
  | word (text : List Char)

/-- A token. -/
inductive Token where
  | scalar (v : Json)
  | openArray
  | closeArray
  | openObject
  | closeObject
  | comma
  | colon

/-- An array or object that is still open: what it holds so far, last first, and the name of the
member that is being read. `none` stands for a garbled name. -/
inductive Frame where
  | array (items : List Json)
  | object (members : List (Option String × Json)) (name : Option String)

/-- What may come next. -/
inductive Expect where
  | value
  | valueOrClose
  | name
  | nameOrClose
  | colon
  | commaOrClose (v : Json)
  | nothing (v : Json)

/-- The arrays and objects that are open, innermost first, and what may come next. -/
structure Build where
  frames : List Frame
  expect : Expect

/-- An object of the members, garbled if one of their names is. -/
def objectOf (members : List (Option String × Json)) : Json :=
  match members.mapM fun (name, v) => name.map fun n => (n, v) with
  | some named => .object named
  | none => .garbled

/-- A value is complete: what may come after it depends on where it stands. -/
def Build.deliver (frames : List Frame) (v : Json) : Build :=
  match frames with
  | [] => ⟨[], .nothing v⟩
  | frames => ⟨frames, .commaOrClose v⟩

/-- The text of a name, which is a string. -/
def nameOf? : Json → Option (Option String)
  | .string s => some (some s)
  | .garbled => some none
  | _ => none

/-- Takes a token in; `none` if it may not come here. -/
def Build.accept (b : Build) (t : Token) : Option Build :=
  match b.expect, t, b.frames with
  | .value, .scalar v, frames | .valueOrClose, .scalar v, frames => some (.deliver frames v)
  | .value, .openArray, frames | .valueOrClose, .openArray, frames =>
    some ⟨.array [] :: frames, .valueOrClose⟩
  | .value, .openObject, frames | .valueOrClose, .openObject, frames =>
    some ⟨.object [] none :: frames, .nameOrClose⟩
  | .valueOrClose, .closeArray, .array _ :: frames => some (.deliver frames (.array []))
  | .nameOrClose, .closeObject, .object _ _ :: frames => some (.deliver frames (.object []))
  | .nameOrClose, .scalar v, .object members _ :: frames
  | .name, .scalar v, .object members _ :: frames =>
    (nameOf? v).map fun name => ⟨.object members name :: frames, .colon⟩
  | .colon, .colon, frames => some ⟨frames, .value⟩
  | .commaOrClose v, .comma, .array items :: frames => some ⟨.array (v :: items) :: frames, .value⟩
  | .commaOrClose v, .closeArray, .array items :: frames =>
    some (.deliver frames (.array (v :: items).reverse))
  | .commaOrClose v, .comma, .object members name :: frames =>
    some ⟨.object ((name, v) :: members) none :: frames, .name⟩
  | .commaOrClose v, .closeObject, .object members name :: frames =>
    some (.deliver frames (objectOf ((name, v) :: members).reverse))
  | _, _, _ => none

/-- The value of a hexadecimal digit. -/
def hexValue? (c : Char) : Option Nat :=
  if c.isDigit then some (c.toNat - '0'.toNat)
  else if 'a' ≤ c ∧ c ≤ 'f' then some (c.toNat - 'a'.toNat + 10)
  else if 'A' ≤ c ∧ c ≤ 'F' then some (c.toNat - 'A'.toNat + 10)
  else none

/-- The character that a letter stands for after a backslash. -/
def unescape? : Char → Option Char
  | '"' => some '"'
  | '\\' => some '\\'
  | '/' => some '/'
  | 'b' => some '\x08'
  | 'f' => some '\x0c'
  | 'n' => some '\n'
  | 'r' => some '\r'
  | 't' => some '\t'
  | _ => none

/-- A sequence of decimal digits at the start of the text, and the rest. -/
def takeDigits : List Char → List Nat × List Char
  | [] => ([], [])
  | c :: s =>
    if c.isDigit then
      let (digits, rest) := takeDigits s
      ((c.toNat - '0'.toNat) :: digits, rest)
    else ([], c :: s)

/-- The digits before the point: a single zero, or digits that do not start with one. -/
def takeWhole? (s : List Char) : Option (List Nat × List Char) :=
  match takeDigits s with
  | ([], _) => none
  | ([0], rest) => some ([0], rest)
  | (0 :: _, _) => none
  | (digits, rest) => some (digits, rest)

/-- The fraction: a point with at least one digit, or nothing. -/
def takeFraction? : List Char → Option (List Nat × List Char)
  | '.' :: s =>
    match takeDigits s with
    | ([], _) => none
    | (digits, rest) => some (digits, rest)
  | s => some ([], s)

/-- The sign of an exponent. -/
def takeSign : List Char → Bool × List Char
  | '-' :: s => (true, s)
  | '+' :: s => (false, s)
  | s => (false, s)

/-- The exponent at the end of the number, if there is one. -/
def takeExponent? : List Char → Option (Option Int)
  | [] => some none
  | c :: s =>
    if c = 'e' ∨ c = 'E' then
      let (negative, s) := takeSign s
      match takeDigits s with
      | (d :: ds, []) =>
        let e : Int := JsonNumber.valueOf (d :: ds)
        some (some (if negative then -e else e))
      | _ => none
    else none

/-- The number that a text writes. -/
def numberOf? (s : List Char) : Option JsonNumber := do
  let (negative, s) :=
    match s with
    | '-' :: s => (true, s)
    | s => (false, s)
  let (whole, s) ← takeWhole? s
  let (fraction, s) ← takeFraction? s
  let exponent ← takeExponent? s
  return { negative, whole, fraction, exponent }

/-- The value that a bare word stands for. -/
def wordOf? (s : List Char) : Option Json :=
  if s = ['n', 'u', 'l', 'l'] then some .null
  else if s = ['t', 'r', 'u', 'e'] then some (.bool true)
  else if s = ['f', 'a', 'l', 's', 'e'] then some (.bool false)
  else none

/-- May the character stand in a number? -/
def isNumberChar (c : Char) : Bool :=
  c.isDigit || c = '-' || c = '+' || c = '.' || c = 'e' || c = 'E'

/-- The whole state of the reader. -/
structure Reading where
  scan : Scan
  build : Build

/-- The state before the first character. -/
def Reading.start : Reading := ⟨.between, [], .value⟩

/-- A token is complete. -/
def Reading.take (build : Build) (t : Token) : Option Reading :=
  (build.accept t).map (⟨.between, ·⟩)

/-- Ends the number or word that the text has just left behind. -/
def Reading.flush (r : Reading) : Option Build :=
  match r.scan with
  | .between => some r.build
  | .number text => do r.build.accept (.scalar (.number (← numberOf? text.reverse)))
  | .word text => do r.build.accept (.scalar (← wordOf? text.reverse))
  | .string _ _ => none

/-- A character outside strings, when no token is being read. -/
def Reading.begin (build : Build) (c : Char) : Option Reading :=
  if c = ' ' ∨ c = '\t' ∨ c = '\n' ∨ c = '\r' then some ⟨.between, build⟩
  else if c = '"' then some ⟨.string [] .plain, build⟩
  else if c = '[' then take build .openArray
  else if c = ']' then take build .closeArray
  else if c = '\x7b' then take build .openObject
  else if c = '\x7d' then take build .closeObject
  else if c = ',' then take build .comma
  else if c = ':' then take build .colon
  else if c = '-' ∨ c.isDigit then some ⟨.number [c], build⟩
  else if c.isAlpha then some ⟨.word [c], build⟩
  else none

/-- A character inside a string, whose parts are given last first. -/
def Reading.inString (build : Build) (parts : List Unit16) (c : Char) : StringMode → Option Reading
  | .plain =>
    if c = '"' then
      match textOf parts.reverse with
      | some text => take build (.scalar (.string (String.ofList text)))
      | none => take build (.scalar .garbled)
    else if c = '\\' then some ⟨.string parts .escape, build⟩
    else if c.toNat < 0x20 then none
    else some ⟨.string (.char c :: parts) .plain, build⟩
  | .escape =>
    if c = 'u' then some ⟨.string parts (.hex 0 0), build⟩
    else (unescape? c).map fun d => ⟨.string (.char d :: parts) .plain, build⟩
  | .hex read value => do
    let n := 16 * value + (← hexValue? c)
    if read < 3 then return ⟨.string parts (.hex (read + 1) n), build⟩
    else if 0xD800 ≤ n ∧ n < 0xE000 then return ⟨.string (.surrogate n :: parts) .plain, build⟩
    else return ⟨.string (.char (Char.ofNat n) :: parts) .plain, build⟩

/-- One character of the text. -/
def Reading.step (r : Reading) (c : Char) : Option Reading :=
  match r.scan with
  | .between => begin r.build c
  | .string parts mode => inString r.build parts c mode
  | .number text =>
    if isNumberChar c then some ⟨.number (c :: text), r.build⟩
    else do begin (← r.flush) c
  | .word text =>
    if c.isAlpha then some ⟨.word (c :: text), r.build⟩
    else do begin (← r.flush) c

/-- The value that a text in the JSON grammar writes, or `none` for any other text. -/
def read? (s : List Char) : Option Json := do
  let r ← s.foldlM Reading.step Reading.start
  match (← r.flush) with
  | ⟨[], .nothing v⟩ => some v
  | _ => none

/-- `read?` on a string. -/
def ofText? (s : String) : Option Json :=
  read? s.toList

end Clientwright.Json

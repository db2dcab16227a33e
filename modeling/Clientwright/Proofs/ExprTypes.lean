import Clientwright.Blueprint.Types
import Clientwright.Crate.Runtime
import Clientwright.Proofs.ItemFiles
import Clientwright.Proofs.PollRuns

/-!
# Types of expressions

What type a value has that generated code makes is not said anywhere in the code.
It follows from what is called, and this file works it out from the code as it is
emitted: an expression is cut into its words, and a machine goes over them once,
with a frame for each call that is still open. The types of parameters and results
are those that the support code declares, and the ones of the library behind it.

The machine is strict. A name has to be bound, a call has to get what it asks for,
a closure is typed at what it will be given, and nothing is left open at the end.
It knows nothing of services, of members, or of the functions that emit code.

Two things are left to where a value is used, as the language leaves them: what is
collected may become any collection of such items, and what is converted any type
that can be made from it. `Ty.fits` says what becomes of these.
-/

namespace Clientwright

/-! ## Types -/

/-- A type of the generated code. -/
inductive Ty where
  | scalar (kind : ScalarKind)
  /-- a type of the generated module for types -/
  | generated (name : String)
  | list (item : Ty)
  | map (value : Ty)
  | boxed (inner : Ty)
  /-- the type that a method belongs to -/
  | owner
  | option (inner : Ty)
  | result (inner error : Ty)
  /-- the error of the support code -/
  | error
  /-- the error of the JSON library -/
  | failure
  | ref (inner : Ty)
  /-- the text behind a reference -/
  | str
  | pair (first second : Ty)
  | iterator (item : Ty)
  /-- the members of a JSON object -/
  | object
  /-- a parsed XML document -/
  | tree
  /-- an element of it -/
  | node
  | response
  | status
  | format
  /-- whatever can be made from a value -/
  | converted (source : Ty)
  /-- whatever holds the items -/
  | collected (item : Ty)
  deriving DecidableEq, Repr

/-- The type as one of the generated code. -/
def ValueType.ty : ValueType → Ty
  | scalar kind => .scalar kind
  | generated name => .generated name
  | list item => .list item.ty
  | map value => .map value.ty
  | boxed inner => .boxed inner.ty

/-- The kinds of scalars that can be made from the number of a status. -/
def ScalarKind.holdsStatus : ScalarKind → Bool
  | .integer | .long | .float | .double | .document => true
  | .string | .boolean | .timestamp | .blob => false

namespace Ty

/-- Can what is left open in the first type become the second? -/
def becomes : Ty → Ty → Bool
  | option a, b =>
    match b with
    | option b => a.becomes b
    | _ => false
  | converted source, b =>
    match b with
    | scalar kind => source == status && kind.holdsStatus
    | _ => false
  | collected item, b =>
    match b with
    | list wanted => item == wanted
    | map wanted => item == pair (scalar .string) wanted
    | _ => false
  | _, _ => false

@[simp]
theorem becomes_option (a b : Ty) : (option a).becomes (option b) = a.becomes b := rfl

@[simp]
theorem becomes_scalar (kind : ScalarKind) (b : Ty) : (scalar kind).becomes b = false := rfl

@[simp]
theorem becomes_map (key value : Ty) :
    (collected (pair key value)).becomes (map value) = (key == scalar .string) := by
  show (pair key value == pair (scalar .string) value) = _
  by_cases h : key = scalar .string <;> simp [h]

/-- Can a value of the first type stand where one of the second is wanted? -/
def fits (a b : Ty) : Bool := a == b || a.becomes b

@[simp]
theorem fits_self (t : Ty) : t.fits t = true := by simp [fits]

/-- Can a value of the first type be given for a parameter of the second? A reference
to a text can be given for one to its characters. -/
def passesAs (a b : Ty) : Bool :=
  a == b || a == ref (scalar .string) && b == ref str

@[simp]
theorem passesAs_self (t : Ty) : t.passesAs t = true := by simp [passesAs]

@[simp]
theorem passesAs_str : (ref (scalar .string)).passesAs (ref str) = true := rfl

/-- What a method sees that takes its receiver by reference. -/
@[simp]
def place : Ty → Ty
  | ref inner => inner.place
  | t => t

end Ty

/-! ## Variables -/

/-- The variables in scope with their types. -/
abbrev Variables := List (String × Ty)

/-- What the pattern binds when it is matched with a value of the type; behind a reference
it binds references. -/
@[simp]
def Pattern.bind? : Pattern → Ty → Option Variables
  | var x, t => some [(x, t)]
  | any, _ => some []
  | pair p q, .pair a b => do return (← p.bind? a) ++ (← q.bind? b)
  | pair p q, .ref (.pair a b) => do return (← p.bind? (.ref a)) ++ (← q.bind? (.ref b))
  | pair _ _, _ => none

/-- What a structure is read from by a conversion. -/
@[simp]
def Conversion.source? : Conversion → Option Ty
  | fromJson => some (.ref (.scalar .document))
  | fromXml => some .node
  | toJson | writeXml | toQuery => none

namespace Typing

/-! ## Functions -/

/-- A function, or a constructor that is used as one. -/
inductive Function where
  | declared (parameters : List Ty) (result : Ty)
  | some
  | ok
  | box
  /-- from a text to an enumerated type -/
  | ofText (type : String)
  /-- the reading of repeated elements, which calls a function for each of them -/
  | repeated
  deriving DecidableEq, Repr

/-- What is given to a function or a method. -/
inductive Argument where
  | value (t : Ty)
  | function (f : Function)
  /-- a closure, by what its body makes -/
  | closure (result : Ty)
  deriving DecidableEq, Repr

/-- What the function makes of values. -/
@[simp]
def Function.apply? : Function → List Ty → Option Ty
  | declared parameters result, given =>
    if given.length = parameters.length ∧ (given.zip parameters).all fun p => p.1.passesAs p.2
    then .some result else none
  | some, [t] => .some (.option t)
  | ok, [t] => .some (.result t .error)
  | box, [t] => .some (.boxed t)
  | ofText type, [.scalar .string] => .some (.generated type)
  | ofText type, [.ref .str] => .some (.generated type)
  | _, _ => none

namespace Argument

/-- The type of the argument if it is a value. -/
@[simp]
def value? : Argument → Option Ty
  | value t => some t
  | function _ | closure _ => none

/-- What the argument makes of a value of the type; a closure was typed at it. -/
@[simp]
def image? : Argument → Ty → Option Ty
  | value _, _ => none
  | function f, t => f.apply? [t]
  | closure result, _ => some result

end Argument

/-- What a result is collected into. -/
inductive Container where
  | list
  | map
  | inferred
  deriving DecidableEq, Repr

/-- The collection of the items. -/
def Container.of? : Container → Ty → Option Ty
  | list, item => some (.list item)
  | map, .pair (.scalar .string) value => some (.map value)
  | map, _ => none
  | inferred, item => some (.collected item)

@[simp]
theorem Container.of?_list (t : Ty) : list.of? t = some (.list t) := rfl

@[simp]
theorem Container.of?_map (t : Ty) : map.of? (.pair (.scalar .string) t) = some (.map t) := rfl

@[simp]
theorem Container.of?_inferred (t : Ty) : inferred.of? t = some (.collected t) := rfl

/-- What stands behind a dot. -/
inductive Accessor where
  | map
  | andThen
  | mapErr
  | filter
  | iter
  | intoIter
  | collect
  | collectResult (container : Container)
  | transpose
  | clone
  | isNull
  | isEmpty
  | toString
  | into
  | header
  | headersWithPrefix
  | text
  | json
  | rootElement
  | body
  | status
  deriving DecidableEq, Repr

namespace Accessor

/-- The accessor of a word. -/
def ofWord? (word : String) : Option Accessor :=
  [("map", map), ("and_then", andThen), ("map_err", mapErr), ("filter", filter),
    ("iter", iter), ("into_iter", intoIter), ("collect", collect),
    ("collect::<Result<Vec<_>, runtime::Error>>", collectResult .list),
    ("collect::<Result<std::collections::BTreeMap<_, _>, runtime::Error>>", collectResult .map),
    ("collect::<Result<_, runtime::Error>>", collectResult .inferred),
    ("transpose", transpose), ("clone", clone), ("is_null", isNull), ("is_empty", isEmpty),
    ("to_string", toString), ("into", into), ("header", header),
    ("headers_with_prefix", headersWithPrefix), ("text", text), ("json", json),
    ("root_element", rootElement), ("body", body), ("status", status)].lookup word

/-- The type of a field. -/
@[simp]
def field? : Accessor → Ty → Option Ty
  | body, .response => some (.scalar .blob)
  | status, .response => some .status
  | _, _ => none

/-- What a method gives to the function that it takes. -/
@[simp]
def parameter? : Accessor → Ty → Option Ty
  | map, .option t => some t
  | map, .result t _ => some t
  | map, .iterator t => some t
  | andThen, .result t _ => some t
  | mapErr, .result _ e => some e
  | filter, .iterator t => some (.ref t)
  | _, _ => none

/-- What a method makes that takes a function, by what the function makes. -/
@[simp]
def applied? : Accessor → Ty → Ty → Option Ty
  | map, .option _, t => some (.option t)
  | map, .result _ e, t => some (.result t e)
  | map, .iterator _, t => some (.iterator t)
  | andThen, .result _ e, .result t e' => if e = e' then some (.result t e) else none
  | mapErr, .result t _, e => some (.result t e)
  | filter, .iterator t, .scalar .boolean => some (.iterator t)
  | _, _, _ => none

/-- What a method makes that takes its receiver as a whole and nothing else. -/
@[simp]
def consumed? : Accessor → Ty → Option Ty
  | intoIter, .list t => some (.iterator t)
  | collect, .iterator t => some (.collected t)
  | collectResult c, .iterator (.result t .error) => (c.of? t).map (.result · .error)
  | transpose, .option (.result t e) => some (.result (.option t) e)
  | into, t => some (.converted t)
  | clone, .ref t => some t
  | clone, t => some t
  | _, _ => none

/-- What a method makes that takes its receiver by reference, of the values that it is
given. -/
@[simp]
def borrowed? : Accessor → Ty → List Ty → Option Ty
  | iter, .list t, [] => some (.iterator (.ref t))
  | iter, .map t, [] => some (.iterator (.pair (.ref (.scalar .string)) (.ref t)))
  | iter, .object, [] =>
    some (.iterator (.pair (.ref (.scalar .string)) (.ref (.scalar .document))))
  | isNull, .scalar .document, [] => some (.scalar .boolean)
  | isEmpty, .map _, [] => some (.scalar .boolean)
  | toString, .failure, [] => some (.scalar .string)
  | header, .response, [.ref .str] => some (.option (.ref .str))
  | headersWithPrefix, .response, [.ref .str] => some (.map (.scalar .string))
  | text, .response, [] => some (.result (.scalar .string) .error)
  | json, .response, [] => some (.result (.scalar .document) .error)
  | rootElement, .tree, [] => some .node
  | _, _, _ => none

/-- What a method makes of its receiver and its arguments. -/
@[simp]
def result? (a : Accessor) (receiver : Ty) (arguments : List Argument) : Option Ty :=
  match a.parameter? receiver, arguments with
  | some parameter, [f] => (f.image? parameter).bind (a.applied? receiver)
  | some _, _ => none
  | none, [] => (a.consumed? receiver).or (a.borrowed? receiver.place [])
  | none, _ => (arguments.mapM Argument.value?).bind (a.borrowed? receiver.place)

end Accessor

/-! ## Words -/

/-- A word of code. -/
inductive Token where
  /-- a local variable -/
  | name (x : String)
  | function (f : Function)
  /-- a string literal -/
  | quoted
  | format
  /-- the path of a generated type, and what may stand behind it -/
  | type (name : String)
  | member
  | fromText
  | convert (c : Conversion)
  | access (a : Accessor)
  | closure (params : Pattern)
  | «open»
  | comma
  | close
  | question
  | reference
  | negation
  /-- the end of a statement or of the head of a block -/
  | stop
  deriving DecidableEq, Repr

namespace Token

/-- Is the character part of a word wherever it stands? -/
def inWord (c : Char) : Bool := c.isAlphanum || c = '_' || c = ':'

/-- The words and signs of code, behind the characters of a word; blanks separate words,
but not between angles. -/
def wordsAfter (word : List Char) (angles : Nat) : List Char → List String
  | [] => if word.isEmpty then [] else [String.ofList word.reverse]
  | c :: rest =>
    if c = '<' then wordsAfter (c :: word) (angles + 1) rest
    else if c = '>' then wordsAfter (c :: word) (angles - 1) rest
    else if 0 < angles || inWord c then wordsAfter (c :: word) angles rest
    else
      (if word.isEmpty then [] else [String.ofList word.reverse]) ++
        (if c = ' ' then [] else [String.singleton c]) ++ wordsAfter [] 0 rest

/-- The words and signs of code. -/
def words (s : String) : List String := wordsAfter [] 0 s.toList

end Token

/-! ## What is declared -/

/-- A function of the support code, with the lines that declare it. -/
structure Declaration where
  path : String
  lines : List String
  function : Function

namespace Declaration

/-- A function that is declared on one line. -/
def single (path line : String) (parameters : List Ty) (result : Ty) : Declaration :=
  ⟨path, ["    pub fn " ++ line ++ " \x7b"], .declared parameters result⟩

/-- The kinds of scalars that are numbers. -/
def numberKinds : List ScalarKind := [.integer, .long, .float, .double]

/-- The functions that read texts. -/
def texts : List Declaration := [
  single "runtime::text::string" "string(value: &str) -> Result<String, Error>"
    [.ref .str] (.result (.scalar .string) .error),
  single "runtime::text::boolean" "boolean(value: &str) -> Result<bool, Error>"
    [.ref .str] (.result (.scalar .boolean) .error),
  single "runtime::text::timestamp"
    "timestamp(value: &str, format: TimestampFormat) -> Result<DateTime<Utc>, Error>"
    [.ref .str, .format] (.result (.scalar .timestamp) .error),
  single "runtime::text::blob" "blob(value: &str) -> Result<Vec<u8>, Error>"
    [.ref .str] (.result (.scalar .blob) .error),
  single "runtime::text::split" "split(value: &str) -> impl Iterator<Item = &str>"
    [.ref .str] (.iterator (.ref .str))] ++
  numberKinds.map fun kind =>
    single ("runtime::text::number::<" ++ kind.typeText ++ ">")
      "number<T: FromStr>(value: &str) -> Result<T, Error>"
      [.ref .str] (.result (.scalar kind) .error)

/-- The type of a reference to a JSON value. -/
abbrev json : Ty := .ref (.scalar .document)

/-- The functions that read JSON. -/
def jsons : List Declaration := [
  single "runtime::json::field"
    "field<'a>(object: &'a Map<String, Value>, name: &str) -> Option<&'a Value>"
    [.ref .object, .ref .str] (.option json),
  single "runtime::json::object" "object(value: &Value) -> Result<&Map<String, Value>, Error>"
    [json] (.result (.ref .object) .error),
  single "runtime::json::array" "array(value: &Value) -> Result<&Vec<Value>, Error>"
    [json] (.result (.ref (.list (.scalar .document))) .error),
  single "runtime::json::string" "string(value: &Value) -> Result<String, Error>"
    [json] (.result (.scalar .string) .error),
  single "runtime::json::integer" "integer(value: &Value) -> Result<i32, Error>"
    [json] (.result (.scalar .integer) .error),
  single "runtime::json::long" "long(value: &Value) -> Result<i64, Error>"
    [json] (.result (.scalar .long) .error),
  single "runtime::json::float" "float(value: &Value) -> Result<f32, Error>"
    [json] (.result (.scalar .float) .error),
  single "runtime::json::double" "double(value: &Value) -> Result<f64, Error>"
    [json] (.result (.scalar .double) .error),
  single "runtime::json::boolean" "boolean(value: &Value) -> Result<bool, Error>"
    [json] (.result (.scalar .boolean) .error),
  single "runtime::json::timestamp"
    "timestamp(value: &Value, format: TimestampFormat) -> Result<DateTime<Utc>, Error>"
    [json, .format] (.result (.scalar .timestamp) .error),
  single "runtime::json::blob" "blob(value: &Value) -> Result<Vec<u8>, Error>"
    [json] (.result (.scalar .blob) .error),
  single "runtime::json::document" "document(value: &Value) -> Result<Value, Error>"
    [json] (.result (.scalar .document) .error)]

/-- The functions that read XML. -/
def xmls : List Declaration := [
  single "runtime::xml::parse" "parse(text: &str) -> Result<Option<Document<'_>>, Error>"
    [.ref .str] (.result (.option .tree) .error),
  single "runtime::xml::unwrap_result"
    ("unwrap_result<'a, 'input>(root: Node<'a, 'input>, wrapper: Option<&str>)" ++
      " -> Node<'a, 'input>")
    [.node, .option (.ref .str)] .node,
  single "runtime::xml::child"
    "child<'a, 'input>(node: Node<'a, 'input>, name: &str) -> Option<Node<'a, 'input>>"
    [.node, .ref .str] (.option .node),
  single "runtime::xml::children"
    "children<'a, 'input>(node: Node<'a, 'input>, name: &str) -> Vec<Node<'a, 'input>>"
    [.node, .ref .str] (.list .node),
  single "runtime::xml::attribute"
    "attribute<'a>(node: Node<'a, '_>, name: &str) -> Option<&'a str>"
    [.node, .ref .str] (.option (.ref .str)),
  single "runtime::xml::string" "string(node: Node<'_, '_>) -> Result<String, Error>"
    [.node] (.result (.scalar .string) .error),
  single "runtime::xml::boolean" "boolean(node: Node<'_, '_>) -> Result<bool, Error>"
    [.node] (.result (.scalar .boolean) .error),
  single "runtime::xml::timestamp"
    "timestamp(node: Node<'_, '_>, format: TimestampFormat) -> Result<DateTime<Utc>, Error>"
    [.node, .format] (.result (.scalar .timestamp) .error),
  single "runtime::xml::blob" "blob(node: Node<'_, '_>) -> Result<Vec<u8>, Error>"
    [.node] (.result (.scalar .blob) .error),
  { path := "runtime::xml::entry"
    lines := [
      "    pub fn entry<'a, 'input>(",
      "        node: Node<'a, 'input>,",
      "        key: &str,",
      "        value: &str,",
      "    ) -> Result<(String, Node<'a, 'input>), Error> \x7b"]
    function := .declared [.node, .ref .str, .ref .str]
      (.result (.pair (.scalar .string) .node) .error) },
  { path := "runtime::xml::flattened"
    lines := [
      "    pub fn flattened<'a, 'input, T, F>(",
      "        node: Node<'a, 'input>,",
      "        name: &str,",
      "        parse: F,",
      "    ) -> Result<Option<Vec<T>>, Error>",
      "    where",
      "        F: FnMut(Node<'a, 'input>) -> Result<T, Error>,",
      "    \x7b"]
    function := .repeated }] ++
  numberKinds.map fun kind =>
    single ("runtime::xml::number::<" ++ kind.typeText ++ ">")
      "number<T: FromStr>(node: Node<'_, '_>) -> Result<T, Error>"
      [.node] (.result (.scalar kind) .error)

/-! The declarations stand in the support code. -/

theorem texts_declared : ∀ d ∈ texts, d.lines <:+: Crate.Runtime.textModule := by
  decide +kernel

theorem jsons_declared : ∀ d ∈ jsons, d.lines <:+: Crate.Runtime.jsonModule := by
  decide +kernel

theorem xmls_declared : ∀ d ∈ xmls, d.lines <:+: Crate.Runtime.xmlModule := by
  decide +kernel

/-- Every function that code may call by its path. -/
def functions : List (String × Function) :=
  (texts ++ jsons ++ xmls).map (fun d => (d.path, d.function)) ++ [
    ("serde_json::from_str::<serde_json::Value>",
      .declared [.ref .str] (.result (.scalar .document) .failure)),
    ("serde_json::Value::String", .declared [.scalar .string] (.scalar .document)),
    ("runtime::Error::InvalidResponse", .declared [.scalar .string] .error),
    ("Self::default", .declared [] .owner),
    ("Some", .some), ("Ok", .ok), ("Box::new", .box)]

end Declaration

namespace Token

/-- The sign that a word is. -/
def ofSign? (word : String) : Option Token :=
  [("(", «open»), (")", close), (",", comma), ("?", question), ("&", reference),
    ("!", negation), (";", stop), ("\x7b", stop), ("::", member), ("::from", fromText)].lookup word

/-- A sign, the path of a function, or else a name. -/
def ofWord (word : String) : Token :=
  match ofSign? word, Declaration.functions.lookup word with
  | some sign, _ => sign
  | none, some f => .function f
  | none, none => .name word

/-- The tokens of words; a name between bars is what a closure binds, and a word behind a
dot an accessor. -/
def ofWords? : List String → Option (List Token)
  | [] => some []
  | "|" :: x :: "|" :: rest => (ofWords? rest).map (.closure (.var x) :: ·)
  | "." :: word :: rest => do return .access (← Accessor.ofWord? word) :: (← ofWords? rest)
  | word :: rest => (ofWords? rest).map (ofWord word :: ·)

/-- The tokens of a text. -/
def read? (s : String) : Option (List Token) := ofWords? (words s)

-- A text that is written out is a list of characters, and is best cut as one: taken as a
-- string it is encoded and decoded again first.

theorem words_ofList (l : List Char) : words (String.ofList l) = wordsAfter [] 0 l := by
  rw [words, String.toList_ofList]

theorem read?_ofList (l : List Char) :
    read? (String.ofList l) = ofWords? (wordsAfter [] 0 l) := by
  rw [read?, words_ofList]

end Token

/-! ## The machine -/

/-- The types that were generated. -/
structure GeneratedTypes where
  enums : List String
  structures : List String

/-- What is called. -/
inductive Callee where
  | function (f : Function)
  | method (a : Accessor) (receiver : Ty)
  | tuple
  deriving DecidableEq, Repr

namespace Callee

/-- What a closure will be given that the callee is given. -/
@[simp]
def parameter? : Callee → Option Ty
  | function .repeated => some .node
  | function _ => none
  | method a receiver => a.parameter? receiver
  | tuple => none

/-- What the call makes. -/
@[simp]
def result? : Callee → List Argument → Option Ty
  | function .repeated, [.value .node, .value (.ref .str), f] => do
    match ← f.image? .node with
    | .result t .error => some (.result (.option (.list t)) .error)
    | _ => none
  | function f, arguments => do f.apply? (← arguments.mapM Argument.value?)
  | method a receiver, arguments => a.result? receiver arguments
  | tuple, [.value a, .value b] => some (.pair a b)
  | tuple, _ => none

end Callee

/-- What stands ahead of a value. -/
inductive Operator where
  | reference
  | negation
  deriving DecidableEq, Repr

/-- What the operator makes of a value. -/
@[simp]
def Operator.apply? : Operator → Ty → Option Ty
  | reference, t => some (.ref t)
  | negation, .scalar .boolean => some (.scalar .boolean)
  | negation, _ => none

/-- What was read last, as far as it goes. -/
inductive Operand where
  | value (t : Ty)
  | function (f : Function)
  /-- a path of a generated type -/
  | type (name : String)
  /-- a value with an accessor: a field, or a method that is about to be called -/
  | access (a : Accessor) (receiver : Ty)
  deriving DecidableEq, Repr

/-- The type of the operand if it is a value. -/
@[simp]
def Operand.value? : Operand → Option Ty
  | value t => some t
  | access a receiver => a.field? receiver.place
  | function _ | type _ => none

/-- An open call, with what it will go on with when it is closed. -/
structure Frame where
  callee : Callee
  /-- what was given so far, the last one first -/
  arguments : List Argument
  scope : Variables
  operators : List Operator
  inClosure : Bool
  deriving DecidableEq, Repr

/-- The machine. -/
structure State where
  scope : Variables
  /-- what stands ahead of the operand, the last one first -/
  operators : List Operator
  operand : Option Operand
  /-- is the operand in the body of a closure? -/
  inClosure : Bool
  frames : List Frame
  deriving DecidableEq, Repr

namespace State

/-- The machine before an expression. -/
@[simp]
def start (scope : Variables) : State := ⟨scope, [], none, false, []⟩

/-- The operand if there is none yet. -/
@[simp]
def put? (s : State) (operand : Operand) : Option State :=
  match s.operand with
  | none => some { s with operand := some operand }
  | some _ => none

/-- The value that was read, with all that stands ahead of it. -/
@[simp]
def value? (s : State) : Option Ty := do
  s.operators.foldlM (fun t o => o.apply? t) (← (← s.operand).value?)

/-- The type of what was read, if no call is open. -/
@[simp]
def result? (s : State) : Option Ty := if s.frames.isEmpty then s.value? else none

/-- What was read as an argument. -/
@[simp]
def argument? (s : State) : Option Argument :=
  match s.operand, s.operators with
  | some (.function f), [] => if s.inClosure then none else some (.function f)
  | _, _ => s.value?.map fun t => if s.inClosure then .closure t else .value t

/-- The machine at the next argument of a call. -/
@[simp]
def enter (s : State) (callee : Callee) : State :=
  { scope := s.scope, operators := [], operand := none, inClosure := false,
    frames := ⟨callee, [], s.scope, s.operators, s.inClosure⟩ :: s.frames }

/-- The call that is open closes, with all that it was given. -/
@[simp]
def leave? (s : State) : Option State :=
  match s.frames with
  | [] => none
  | frame :: frames => do
    let last ← if s.operand.isNone && frame.arguments.isEmpty then some [] else
      s.argument?.map ([·])
    let t ← frame.callee.result? (frame.arguments.reverse ++ last)
    return ⟨frame.scope, frame.operators, some (.value t), frame.inClosure, frames⟩

/-- The open call has another argument. -/
@[simp]
def next? (s : State) : Option State :=
  match s.frames with
  | [] => none
  | frame :: frames => do
    if s.inClosure then none
    else
      return {
        scope := s.scope, operators := [], operand := none, inClosure := false,
        frames := { frame with arguments := (← s.argument?) :: frame.arguments } :: frames }

/-- The argument of the open call is a closure. -/
@[simp]
def bind? (s : State) (params : Pattern) : Option State :=
  match s.operand, s.operators, s.frames with
  | none, [], frame :: _ => do
    let bound ← params.bind? (← frame.callee.parameter?)
    return { s with scope := bound ++ s.scope, inClosure := true }
  | _, _, _ => none

/-- A result is unwrapped; that returns from the function around, so it may not be done
in a closure. -/
@[simp]
def unwrap? (s : State) : Option State :=
  if s.inClosure = false ∧ ∀ frame ∈ s.frames, frame.inClosure = false then
    match s.operand with
    | some (.value (.result t .error)) => some { s with operand := some (.value t) }
    | _ => none
  else none

/-- One step of the machine. -/
@[simp]
def step? (types : GeneratedTypes) (s : State) : Token → Option State
  | .name x => do s.put? (.value (← s.scope.lookup x))
  | .function f => s.put? (.function f)
  | .quoted => s.put? (.value (.ref .str))
  | .format => s.put? (.value .format)
  | .type name => s.put? (.type name)
  | .member =>
    match s.operand with
    | some (.type _) => some s
    | _ => none
  | .fromText =>
    match s.operand with
    | some (.type name) =>
      if name ∈ types.enums then
        some { s with operand := some (.function (.ofText name)) }
      else none
    | _ => none
  | .convert c =>
    match s.operand, c.source? with
    | some (.type name), some source =>
      if name ∈ types.structures then
        let f := Function.declared [source] (.result (.generated name) .error)
        some { s with operand := some (.function f) }
      else none
    | _, _ => none
  | .access a => do
    let t ← (← s.operand).value?
    return { s with operand := some (.access a t) }
  | .closure params => s.bind? params
  | .open =>
    match s.operand with
    | none => some (s.enter .tuple)
    | some (.function f) => some ({ s with operand := none }.enter (.function f))
    | some (.access a receiver) => some ({ s with operand := none }.enter (.method a receiver))
    | some (.value _) | some (.type _) => none
  | .comma => s.next?
  | .close => s.leave?
  | .question => s.unwrap?
  | .reference =>
    match s.operand with
    | none => some { s with operators := .reference :: s.operators }
    | some _ => none
  | .negation =>
    match s.operand with
    | none => some { s with operators := .negation :: s.operators }
    | some _ => none
  | .stop => if s.frames.isEmpty then some s else none

/-- The machine over some tokens. -/
def run? (types : GeneratedTypes) (s : State) (tokens : List Token) : Option State :=
  tokens.foldlM (step? types) s

end State

end Typing

namespace Expr

open Typing

/-- The machine over an expression. -/
def run? (types : GeneratedTypes) : Expr → State → Option State
  | empty, s => some s
  | plain text, s => do s.run? types (← Token.read? text)
  | quoted _, s => s.step? types .quoted
  | var x, s => s.step? types (.name x)
  | field _, _ => none
  | item .types name, s => s.step? types (.type name)
  | item .input _, _ | item .output _, _ => none
  | convert c _, s => s.step? types (.convert c)
  | timestamp _, s => s.step? types .format
  | seq a b, s => (a.run? types s).bind (b.run? types)
  | closure params body, s => (s.step? types (.closure params)).bind (body.run? types)

/-- The type of an expression. -/
def type? (types : GeneratedTypes) (scope : Variables) (e : Expr) : Option Ty := do
  (← e.run? types (.start scope)).result?

end Expr

/-! ## Statements -/

/-- What is assigned to a field. -/
structure Typing.Assignment where
  field : String
  type : Ty
  deriving DecidableEq, Repr

namespace Code

open Typing

/-- The type of an expression that is given by its words. -/
def wordsType? (types : GeneratedTypes) (scope : Variables) (words : List String) : Option Ty := do
  (← (State.start scope).run? types (← Token.ofWords? words)).result?

/-- A statement of plain text: a binding, or else an expression. -/
def plainType? (types : GeneratedTypes) (scope : Variables) (text : String) : Option Variables :=
  match Token.words text with
  | "let" :: "mut" :: x :: "=" :: words => do
    return (x, ← wordsType? types scope words) :: scope
  | "let" :: x :: "=" :: words => do return (x, ← wordsType? types scope words) :: scope
  | words => do
    let _ ← wordsType? types scope words
    return scope

/-- What is bound under the head of a block; a condition binds nothing. -/
def headScope? (types : GeneratedTypes) (scope : Variables) (head : Expr) : Option Variables :=
  match Token.words head.text with
  | "if" :: "let" :: "Some" :: "(" :: x :: ")" :: "=" :: words => do
    match ← wordsType? types scope words with
    | .option t => return [(x, t)]
    | _ => none
  | "if" :: words => do
    match ← wordsType? types scope words with
    | .scalar .boolean => return []
    | _ => none
  | _ => none

/-- The assignments to the fields of what is being made, in order, and what is in scope
behind the code. There are none if anything in the code has no type. -/
def assignments? (types : GeneratedTypes) :
    Code → Variables → Option (List Assignment × Variables)
  | empty, scope => some ([], scope)
  | seq a b, scope => do
    let (before, scope) ← a.assignments? types scope
    let (after, scope) ← b.assignments? types scope
    return (before ++ after, scope)
  | line e, scope =>
    match e.pieces with
    | .plain "output." :: .field field :: .plain " = " :: value =>
      if scope.lookup "output" = some .owner then do
        return ([⟨field, ← (Expr.of value).type? types scope⟩], scope)
      else none
    | [.plain text] => (plainType? types scope text).map (([], ·))
    | _ => none
  | bind x value, scope => do return ([], (x, ← value.type? types scope) :: scope)
  | block head binds body _, scope => do
    let bound ← headScope? types scope head
    if bound.map (·.1) = binds then
      return ((← body.assignments? types (bound ++ scope)).1, scope)
    else none
  | branch _ _ _, _ => none

/-- The opening line of the method that reads a response, by the name of its parameter. -/
def responseHead (parameter : String) : String :=
  "pub(crate) fn from_response(" ++ parameter ++
    ": &runtime::Response) -> Result<Self, runtime::Error> \x7b"

/-- The assignments in the method of a type that reads a response. -/
def responseAssignments? (types : GeneratedTypes) (type : String) (c : Code) :
    Option (List Assignment) := do
  let implementation ← c.bodyOf? ("impl " ++ type ++ " \x7b")
  let (parameter, body) ←
    ((implementation.bodyOf? (responseHead "response")).map (("response", ·))).or
      ((implementation.bodyOf? (responseHead "_response")).map (("_response", ·)))
  return (← body.assignments? types [(parameter, .ref .response)]).1

end Code

/-! ## Runs, step by step

A run is worked out from its start, and what is still to come is looked at only when it is
known where the machine stands. `goOn?` and `over?` keep it out of sight until then. -/

namespace Typing.State

variable {types : GeneratedTypes} {s : State} {token : Token} {tokens : List Token}

/-- What a run goes on with, if it has come so far. -/
def goOn? (s : Option State) (go : State → Option State) : Option State := s.bind go

/-- The machine over some tokens, from wherever it stands. -/
def over? (types : GeneratedTypes) (tokens : List Token) (s : State) : Option State :=
  s.run? types tokens

-- `rfl` stands in brackets where it proves an equation of a run: bare, it makes the equation a
-- definitional one for `simp`, and the kernel then goes over the whole run again at every step.

@[simp]
theorem goOn?_some (go : State → Option State) : goOn? (some s) go = go s := (rfl)

@[simp]
theorem over?_apply : over? types tokens s = s.run? types tokens := (rfl)

@[simp]
theorem run?_nil : s.run? types [] = some s := (rfl)

@[simp]
theorem run?_cons :
    s.run? types (token :: tokens) = goOn? (s.step? types token) (over? types tokens) := (rfl)

end Typing.State

/-! ## Typed expressions -/

namespace Expr

open Typing

variable {types : GeneratedTypes} {scope : Variables} {e : Expr} {t : Ty} {s : State}

/-- The expression has a type wherever it stands: the machine is left as it was, with a
value of the type. -/
def Typed (types : GeneratedTypes) (scope : Variables) (e : Expr) (t : Ty) : Prop :=
  ∀ operators inClosure frames,
    e.run? types ⟨scope, operators, none, inClosure, frames⟩ =
      some ⟨scope, operators, some (.value t), inClosure, frames⟩

@[simp]
theorem run?_of_nil : (of []).run? types s = some s := (rfl)

@[simp]
theorem run?_of_cons {l : List Expr} :
    (of (e :: l)).run? types s = State.goOn? (e.run? types s) ((of l).run? types) := (rfl)

@[simp]
theorem run?_empty : empty.run? types s = some s := (rfl)

@[simp]
theorem run?_plain {text : String} :
    (plain text).run? types s = (Token.read? text).bind (s.run? types) := (rfl)

@[simp]
theorem run?_quoted {text : String} : (quoted text).run? types s = s.step? types .quoted := (rfl)

@[simp]
theorem run?_var {x : String} : (var x).run? types s = s.step? types (.name x) := (rfl)

@[simp]
theorem run?_item {name : String} :
    (item .types name).run? types s = s.step? types (.type name) := (rfl)

@[simp]
theorem run?_convert {c : Conversion} {owner : String} :
    (convert c owner).run? types s = s.step? types (.convert c) := (rfl)

@[simp]
theorem run?_timestamp {format : TimestampFormat} :
    (timestamp format).run? types s = s.step? types .format := (rfl)

@[simp]
theorem run?_closure {params : Pattern} {body : Expr} :
    (closure params body).run? types s =
      State.goOn? (s.step? types (.closure params)) (body.run? types) := (rfl)

theorem Typed.type? (h : e.Typed types scope t) : e.type? types scope = some t := by
  rw [Expr.type?, State.start, h]
  rfl

end Expr

end Clientwright

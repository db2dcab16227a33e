import Clientwright.Naming.Words

/-!
# Identifiers

Names become identifiers of the generated Rust code. Words that the language keeps for itself are
escaped where it allows that and lengthened where it does not.
-/

namespace Clientwright.Naming

/-- Keywords that may stand as raw identifiers. -/
def keywords : List String :=
  ["as", "async", "await", "break", "const", "continue", "dyn", "else", "enum", "extern",
   "false", "fn", "for", "if", "impl", "in", "let", "loop", "match", "mod", "move", "mut",
   "pub", "ref", "return", "static", "struct", "trait", "true", "type", "unsafe", "use",
   "where", "while", "abstract", "become", "box", "do", "final", "gen", "macro", "override",
   "priv", "try", "typeof", "unsized", "virtual", "yield"]

/-- Keywords that may not stand even as raw identifiers. -/
def reserved : List String :=
  ["self", "super", "crate", "Self"]

/-- Does the text start with a digit? -/
def startsWithDigit (s : String) : Bool :=
  s.toList.head?.any Char.isDigit

/-- The identifier of a field or method. -/
def fieldIdent (name : String) : String :=
  let words := snake name
  let words :=
    if words.isEmpty then "value"
    else if startsWithDigit words then "v" ++ words
    else words
  if reserved.contains words then words ++ "_value"
  else if keywords.contains words then "r#" ++ words
  else words

/-- The name of a module, which is also the stem of its file. -/
def moduleName (name : String) : String :=
  let words := snake name
  if keywords.contains words || reserved.contains words then words ++ "_" else words

/-- The identifier of a type. It keeps the capitals of the name. -/
def typeIdent (name : String) : String :=
  let letters := name.toList.filter Text.isAlphanumeric
  let letters := if letters.head?.any Char.isDigit then 'V' :: letters else letters
  if letters.isEmpty then "Value" else String.ofList (Text.capitalize letters)

/-- The identifier of a variant, or nothing if the value has no letter or digit. -/
def variantIdent (value : String) : String :=
  let words := pascal value
  if startsWithDigit words then "V" ++ words else words

end Clientwright.Naming

import Clientwright.Proofs.ReadTypes

/-!
# Types of statements

A method that reads a response is made of a few kinds of statements: bindings, blocks for
what may be missing, and assignments to the fields of the output. An expression on its
own right-hand side is evaluated outside every closure, so that an error in it leaves the
method, and what is left is the value that is assigned.

Each kind is given its effect on what is bound and on what has been assigned so far. The
expressions come with whatever makes the value inside them, and the rest of the words
around it is worked out by the machine.
-/

namespace Clientwright

open Outcome Service Typing

namespace Expr

variable {types : GeneratedTypes} {vars : Variables} {x y path name : String} {e : Expr}
  {p q t : Ty}

/-! ## Expressions on their own -/

/-- The expression has a type wherever results may be unwrapped, which is outside closures. -/
def Evaluates (types : GeneratedTypes) (vars : Variables) (e : Expr) (t : Ty) : Prop :=
  ∀ operators frames, (∀ frame ∈ frames, frame.inClosure = false) →
    e.run? types ⟨vars, operators, none, false, frames⟩ =
      some ⟨vars, operators, some (.value t), false, frames⟩

theorem Typed.evaluates (h : e.Typed types vars t) : e.Evaluates types vars t :=
  fun _ _ _ => h _ _ _

theorem Evaluates.type? (h : e.Evaluates types vars t) : e.type? types vars = some t := by
  have hvalue := h [] [] (List.forall_mem_nil _)
  simp [Expr.type?, hvalue]

/-- The statement that gives the value to a field. -/
theorem assignments?_assign {m : Member} (hout : vars.lookup "output" = some .owner)
    (h : e.Evaluates types vars t) :
    (Response.assign m e).assignments? types vars =
      some ([⟨Naming.fieldIdent m.name, t⟩], vars) := by
  have htype : (of [e, ";"]).type? types vars = some t := by
    have hvalue := h [] [] (List.forall_mem_nil _)
    simp [Expr.type?, hvalue]
  simp [Response.assign, Code.assignments?, hout, htype]

/-! ## Members -/

/-- The words of the values that an output is made of. -/
@[simp]
theorem read?_values :
    Token.read? "Some(" = some [.function .some, .open] ∧
    Token.read? "Box::new(" = some [.function .box, .open] ∧
    Token.read? "response.header(" = some [.name "response", .access .header, .open] ∧
    Token.read? "response.headers_with_prefix(" =
      some [.name "response", .access .headersWithPrefix, .open] ∧
    Token.read? "response.body.clone()" =
      some [.name "response", .access .body, .access .clone, .open, .close] ∧
    Token.read? "response.json()?" =
      some [.name "response", .access .json, .open, .close, .question] ∧
    Token.read? "response.text()?" =
      some [.name "response", .access .text, .open, .close, .question] ∧
    Token.read? "::from(response.text()?)" =
      some [.fromText, .open, .name "response", .access .text, .open, .close, .question,
        .close] ∧
    Token.read? "(&response.json()?)?" =
      some [.open, .reference, .name "response", .access .json, .open, .close, .question, .close,
        .question] ∧
    Token.read? "(document.root_element())?" =
      some [.open, .name "document", .access .rootElement, .open, .close, .close, .question] ∧
    Token.read? "Some(response.status.into())" =
      some [.function .some, .open, .name "response", .access .status, .access .into, .open,
        .close, .close] ∧
    Token.read? "Some(prefixed.iter().map(" =
      some [.function .some, .open, .name "prefixed", .access .iter, .open, .close,
        .access .map, .open] ∧
    Token.read? ").collect::<Result<_, runtime::Error>>()?)" =
      some [.close, .access (.collectResult .inferred), .open, .close, .question, .close] ∧
    Token.read? ")?" = some [.close, .question] ∧
    Token.read? ")?.map(|entries| entries.into_iter().collect())" =
      some [.close, .question, .access .map, .open, .closure (.var "entries"), .name "entries",
        .access .intoIter, .open, .close, .access .collect, .open, .close, .close] ∧
    Token.read? "runtime::json::object(&body)?" =
      some [.function (.declared [.ref (.scalar .document)] (.result (.ref .object) .error)),
        .open, .reference, .name "body", .close, .question] ∧
    Token.read? "document.root_element()" =
      some [.name "document", .access .rootElement, .open, .close] ∧
    Token.read? "runtime::xml::unwrap_result(document.root_element(), Some(" =
      some [.function (.declared [.node, .option (.ref .str)] .node), .open, .name "document",
        .access .rootElement, .open, .close, .comma, .function .some, .open] ∧
    Token.read? "))" = some [.close, .close] := by
  and_intros <;> exact (Token.read?_ofList _).trans rfl

/-- What is found under a name is read, and it may be missing. -/
theorem evaluates_found {element : String}
    (hpath : Token.read? path =
      some [.function (.declared [p, .ref .str] (.option q)), .open])
    (hx : vars.lookup x = some p)
    (he : ∀ vars, vars.lookup y = some q → e.Typed types vars (.result t .error)) :
    (of [.plain path, .var x, ", ", .quoted element, ").map(", .closure y e,
      ").transpose()?"]).Evaluates types vars (.option t) := by
  have hbody := he ((y, q) :: vars) List.lookup_cons_self
  simp only [Typed] at hbody
  intro operators frames hframes
  simp [hpath, hx, hbody, eq_true hframes]

theorem evaluates_flattened {element : String} (hx : vars.lookup x = some .node)
    (he : ∀ vars, vars.lookup y = some .node → e.Typed types vars (.result t .error)) :
    (of ["runtime::xml::flattened(", .var x, ", ", .quoted element, ", ", .closure y e,
      ")?"]).Evaluates types vars (.option (.list t)) := by
  have hbody := he ((y, .node) :: vars) List.lookup_cons_self
  simp only [Typed] at hbody
  intro operators frames hframes
  simp [hx, hbody, eq_true hframes]

theorem evaluates_flattenedMap {element : String} (hx : vars.lookup x = some .node)
    (he : ∀ vars, vars.lookup y = some .node → e.Typed types vars (.result t .error)) :
    (of ["runtime::xml::flattened(", .var x, ", ", .quoted element, ", ", .closure y e,
      ")?.map(|entries| entries.into_iter().collect())"]).Evaluates types vars
        (.option (.collected t)) := by
  have hbody := he ((y, .node) :: vars) List.lookup_cons_self
  simp only [Typed] at hbody
  intro operators frames hframes
  simp [hx, hbody, eq_true hframes]

theorem typed_boxed (h : e.Typed types vars (.result t .error)) :
    (of [e, ".map(Box::new)"]).Typed types vars (.result (.boxed t) .error) := by
  intro operators inClosure frames
  simp only [Typed] at h
  simp [h]

/-! ## Responses -/

/-- The value as the one that is there. -/
theorem evaluates_some (h : e.Evaluates types vars t) :
    (of ["Some(", e, ")"]).Evaluates types vars (.option t) := by
  intro operators frames hframes
  have hvalue := h [] (⟨.function .some, [], vars, operators, false⟩ :: frames)
    (List.forall_mem_cons.mpr ⟨rfl, hframes⟩)
  simp [hvalue]

theorem evaluates_box (h : e.Evaluates types vars t) :
    (of ["Box::new(", e, ")"]).Evaluates types vars (.boxed t) := by
  intro operators frames hframes
  have hvalue := h [] (⟨.function .box, [], vars, operators, false⟩ :: frames)
    (List.forall_mem_cons.mpr ⟨rfl, hframes⟩)
  simp [hvalue]

section

variable (hresponse : vars.lookup "response" = some (.ref .response))
include hresponse

theorem evaluates_responseBody :
    (plain "response.body.clone()").Evaluates types vars (.scalar .blob) := by
  intro operators frames hframes
  simp [hresponse]

theorem evaluates_responseJson :
    (plain "response.json()?").Evaluates types vars (.scalar .document) := by
  intro operators frames hframes
  simp [hresponse, eq_true hframes]

theorem evaluates_responseText :
    (plain "response.text()?").Evaluates types vars (.scalar .string) := by
  intro operators frames hframes
  simp [hresponse, eq_true hframes]

theorem evaluates_responseStatus :
    (plain "Some(response.status.into())").Evaluates types vars
      (.option (.converted .status)) := by
  intro operators frames hframes
  simp [hresponse]

theorem evaluates_fromText (hname : name ∈ types.enums) :
    (of [.item .types name, "::from(response.text()?)"]).Evaluates types vars
      (.generated name) := by
  intro operators frames hframes
  simp [hresponse, hname, eq_true hframes]

theorem evaluates_fromJson (hname : name ∈ types.structures) {owner : String} :
    (of [.item .types name, "::", .convert .fromJson owner, "(&response.json()?)?"]).Evaluates
      types vars (.generated name) := by
  intro operators frames hframes
  simp [hresponse, hname, eq_true hframes]

theorem evaluates_header {header : String}
    (he : ∀ vars, vars.lookup y = some (.ref .str) → e.Typed types vars (.result t .error)) :
    (of ["response.header(", .quoted header, ").map(", .closure y e,
      ").transpose()?"]).Evaluates types vars (.option t) := by
  have hbody := he ((y, .ref .str) :: vars) List.lookup_cons_self
  simp only [Typed] at hbody
  intro operators frames hframes
  simp [hresponse, hbody, eq_true hframes]

theorem evaluates_prefixed {start : String} :
    (of ["response.headers_with_prefix(", .quoted start, ")"]).Evaluates types vars
      (.map (.scalar .string)) := by
  intro operators frames hframes
  simp [hresponse]

end

/-- The members of the body. -/
theorem evaluates_object (hbody : vars.lookup "body" = some (.scalar .document)) :
    (plain "runtime::json::object(&body)?").Evaluates types vars (.ref .object) := by
  intro operators frames hframes
  simp [hbody, eq_true hframes]

theorem evaluates_root (hdocument : vars.lookup "document" = some .tree) :
    (plain "document.root_element()").Evaluates types vars .node := by
  intro operators frames hframes
  simp [hdocument]

theorem evaluates_unwrapped (hdocument : vars.lookup "document" = some .tree)
    {wrapper : String} :
    (of ["runtime::xml::unwrap_result(document.root_element(), Some(", .quoted wrapper,
      "))"]).Evaluates types vars .node := by
  intro operators frames hframes
  simp [hdocument]

theorem evaluates_fromXml (hdocument : vars.lookup "document" = some .tree)
    (hname : name ∈ types.structures) {owner : String} :
    (of [.item .types name, "::", .convert .fromXml owner,
      "(document.root_element())?"]).Evaluates types vars (.generated name) := by
  intro operators frames hframes
  simp [hdocument, hname, eq_true hframes]

/-- The headers that were found as the entries of a map. -/
theorem evaluates_headers (hprefixed : vars.lookup "prefixed" = some (.map (.scalar .string)))
    (he : ∀ vars, vars.lookup "value" = some (.ref (.scalar .string)) →
      e.Typed types vars (.result t .error)) :
    (of ["Some(prefixed.iter().map(", .closure (.pair "key" "value") (of [e, ".map(",
        .closure "parsed" (of ["(", .var "key", ".clone(), ", .var "parsed", ")"]), ")"]),
      ").collect::<Result<_, runtime::Error>>()?)"]).Evaluates types vars
      (.option (.collected (.pair (.scalar .string) t))) := by
  have hbody := he (("key", .ref (.scalar .string)) :: ("value", .ref (.scalar .string)) ::
    vars) rfl
  simp only [Typed] at hbody
  intro operators frames hframes
  simp [hprefixed, hbody, List.lookup_cons, eq_true hframes]

end Expr

/-! ## Statements -/

namespace Code

variable {types : GeneratedTypes} {vars : Variables}

set_option maxRecDepth 2000 in
/-- The words of whole lines. -/
@[simp]
theorem words_statements :
    Token.words "let mut output = Self::default();" =
      ["let", "mut", "output", "=", "Self::default", "(", ")", ";"] ∧
    Token.words "let body = response.json()?;" =
      ["let", "body", "=", "response", ".", "json", "(", ")", "?", ";"] ∧
    Token.words "let text = response.text()?;" =
      ["let", "text", "=", "response", ".", "text", "(", ")", "?", ";"] ∧
    Token.words "Ok(output)" = ["Ok", "(", "output", ")"] ∧
    Token.words "Ok(Self::default())" = ["Ok", "(", "Self::default", "(", ")", ")"] ∧
    Token.words "if let Some(document) = runtime::xml::parse(&text)? \x7b" =
      ["if", "let", "Some", "(", "document", ")", "=", "runtime::xml::parse", "(", "&", "text",
        ")", "?", "\x7b"] ∧
    Token.words "if !prefixed.is_empty() \x7b" =
      ["if", "!", "prefixed", ".", "is_empty", "(", ")", "\x7b"] := by
  and_intros <;> exact (Token.words_ofList _).trans rfl

/-- What the words behind an equals sign mean, or those of a condition. -/
@[simp]
theorem ofWords?_statements :
    Token.ofWords? ["Self::default", "(", ")", ";"] =
      some [.function (.declared [] .owner), .open, .close, .stop] ∧
    Token.ofWords? ["response", ".", "json", "(", ")", "?", ";"] =
      some [.name "response", .access .json, .open, .close, .question, .stop] ∧
    Token.ofWords? ["response", ".", "text", "(", ")", "?", ";"] =
      some [.name "response", .access .text, .open, .close, .question, .stop] ∧
    Token.ofWords? ["Ok", "(", "output", ")"] =
      some [.function .ok, .open, .name "output", .close] ∧
    Token.ofWords? ["Ok", "(", "Self::default", "(", ")", ")"] =
      some [.function .ok, .open, .function (.declared [] .owner), .open, .close, .close] ∧
    Token.ofWords? ["runtime::xml::parse", "(", "&", "text", ")", "?", "\x7b"] =
      some [.function (.declared [.ref .str] (.result (.option .tree) .error)), .open,
        .reference, .name "text", .close, .question, .stop] ∧
    Token.ofWords? ["!", "prefixed", ".", "is_empty", "(", ")", "\x7b"] =
      some [.negation, .name "prefixed", .access .isEmpty, .open, .close, .stop] := by
  and_intros <;> rfl

theorem assignments?_default (vars : Variables) :
    (text "let mut output = Self::default();").assignments? types vars =
      some ([], ("output", .owner) :: vars) := by
  simp [assignments?, text, Expr.pieces, plainType?, wordsType?]

theorem assignments?_json (h : vars.lookup "response" = some (.ref .response)) :
    (text "let body = response.json()?;").assignments? types vars =
      some ([], ("body", .scalar .document) :: vars) := by
  simp [assignments?, text, Expr.pieces, plainType?, wordsType?, h]

theorem assignments?_text (h : vars.lookup "response" = some (.ref .response)) :
    (text "let text = response.text()?;").assignments? types vars =
      some ([], ("text", .scalar .string) :: vars) := by
  simp [assignments?, text, Expr.pieces, plainType?, wordsType?, h]

theorem assignments?_ok (h : vars.lookup "output" = some .owner) :
    (text "Ok(output)").assignments? types vars = some ([], vars) := by
  simp [assignments?, text, Expr.pieces, plainType?, wordsType?, h]

theorem assignments?_seq {a c : Code} {l l' : List Assignment} {between after : Variables}
    (ha : a.assignments? types vars = some (l, between))
    (hc : c.assignments? types between = some (l', after)) :
    (seq a c).assignments? types vars = some (l ++ l', after) := by
  rw [assignments?, ha, Option.bind_eq_bind, Option.bind_some]
  dsimp only
  rw [hc]
  rfl

theorem assignments?_okDefault (vars : Variables) :
    (text "Ok(Self::default())").assignments? types vars = some ([], vars) := by
  simp [assignments?, text, Expr.pieces, plainType?, wordsType?]

/-- The document is in scope in the block, and the text it was read from behind it. -/
theorem assignments?_withDocument {inner : Code} {l : List Assignment} {inside : Variables}
    (h : vars.lookup "response" = some (.ref .response))
    (hinner : inner.assignments? types (("document", .tree) :: ("text", .scalar .string) :: vars) =
      some (l, inside)) :
    (Response.withDocument inner).assignments? types vars =
      some (l, ("text", .scalar .string) :: vars) := by
  have hhead : headScope? types (("text", .scalar .string) :: vars)
      (.plain "if let Some(document) = runtime::xml::parse(&text)? \x7b") =
        some [("document", .tree)] := by
    have htext : (Expr.plain "if let Some(document) = runtime::xml::parse(&text)? \x7b").text =
      "if let Some(document) = runtime::xml::parse(&text)? \x7b" := rfl
    simp [headScope?, htext, wordsType?]
  refine assignments?_seq (assignments?_text h) ?_
  simp [assignments?, hhead, hinner]

theorem assignments?_prefixed {inner : Code} {l : List Assignment} {inside : Variables}
    (h : vars.lookup "prefixed" = some (.map (.scalar .string)))
    (hinner : inner.assignments? types vars = some (l, inside)) :
    (braces "if !prefixed.is_empty()" inner).assignments? types vars = some (l, vars) := by
  have htext : (Expr.plain "if !prefixed.is_empty()" ++ Expr.plain " \x7b").text =
      "if !prefixed.is_empty() \x7b" := rfl
  simp [assignments?, braces, headScope?, htext, wordsType?, h, hinner]

theorem assignments?_bind {x : String} {e : Expr} {t : Ty} (h : e.Evaluates types vars t) :
    (bind x e).assignments? types vars = some ([], (x, t) :: vars) := by
  rw [assignments?, h.type?]
  rfl

end Code

end Clientwright

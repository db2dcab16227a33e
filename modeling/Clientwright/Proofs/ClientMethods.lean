import Clientwright.Proofs.EnumRuns
import Clientwright.Proofs.NameClashes
import Clientwright.Proofs.Removals

/-!
# The methods of the client

Three files of a crate give methods to the client: the one that declares it, the one with the page
iterators and the one with the waiters. Their names are made apart from each other, with an ending
or a beginning for each purpose, and nothing asks whether one of them is taken. So here the names
are read from the files, and it is found out which of them can be the same.
-/

namespace Clientwright

open Outcome

/-- Texts that end differently are different, where the ends are of one length. -/
theorem append_ne_append {s t e f : String} (hlength : e.length = f.length) (h : e ≠ f) :
    s ++ e ≠ t ++ f := by
  intro heq
  have hlist := congrArg String.toList heq
  rw [String.toList_append, String.toList_append] at hlist
  have hlength : e.toList.length = f.toList.length := by
    rw [String.length_toList, String.length_toList, hlength]
  exact h (String.toList_injective (List.append_inj_right' hlist hlength))

/-! ## Functions in code -/

/-- The name of the function that a line opens, if it opens any that is public or private. -/
def functionName? (s : String) : Option String :=
  ((Text.dropStart? "pub fn ".toList s.toList).or (Text.dropStart? "fn ".toList s.toList)).map
    fun rest => String.ofList (rest.takeWhile (· ≠ '('))

theorem functionName?_eq {s name : String} (rest : List Char) (hname : '(' ∉ name.toList)
    (h : s.toList = "pub fn ".toList ++ (name.toList ++ '(' :: rest) ∨
      s.toList = "fn ".toList ++ (name.toList ++ '(' :: rest)) :
    functionName? s = some name := by
  have htake : String.ofList ((name.toList ++ '(' :: rest).takeWhile (· ≠ '(')) = name := by
    have hall : ∀ c ∈ name.toList, decide (c ≠ '(') = true :=
      fun c hc => decide_eq_true (ne_of_mem_of_not_mem hc hname)
    rw [List.takeWhile_append_of_pos hall]
    simp
  rw [functionName?]
  rcases h with h | h
  · rw [Text.dropStart?_eq_some_iff.mpr h]
    exact congrArg some htake
  · have hpublic : Text.dropStart? "pub fn ".toList s.toList = none := by
      rw [h]
      rfl
    rw [hpublic, Text.dropStart?_eq_some_iff.mpr h]
    exact congrArg some htake

namespace Code

/-- The names of the functions in the code that are in no other block. -/
def functions (c : Code) : List String := c.blocks.filterMap fun x => functionName? x.1.text

/-- The openings of the blocks that give methods to a client. -/
def clientOpenings (client : String) : List String :=
  ["impl<T> " ++ client ++ "<T> \x7b", "impl<T: runtime::Transport> " ++ client ++ "<T> \x7b",
    "impl<T: runtime::Transport> crate::client::" ++ client ++ "<T> \x7b"]

/-- The names of the methods that the code gives to a client. -/
def clientFunctions (client : String) (c : Code) : List String :=
  c.blocks.flatMap fun x => if x.1.text ∈ clientOpenings client then x.2.functions else []

variable {a c : Code} {head : Expr} {body : Code} {client : String}

@[simp]
theorem blocks_append : (a ++ c).blocks = a.blocks ++ c.blocks := rfl

@[simp]
theorem blocks_text (s : String) : (text s).blocks = [] := rfl

@[simp]
theorem blocks_line (e : Expr) : (line e).blocks = [] := rfl

@[simp]
theorem blocks_blank : blank.blocks = [] := rfl

@[simp]
theorem blocks_empty : empty.blocks = [] := rfl

@[simp]
theorem blocks_texts (l : List String) : (texts l).blocks = [] := by
  simp [texts, blocks_all]

@[simp]
theorem blocks_when (condition : Bool) : (Code.when condition c).blocks =
    if condition then c.blocks else [] := by
  cases condition <;> rfl

theorem blocks_spaced (l : List Code) : (spaced l).blocks = l.flatMap blocks := by
  induction l with
  | nil => rfl
  | cons c l ih =>
      cases l with
      | nil => exact (List.append_nil _).symm
      | cons c' l => exact congrArg (c.blocks ++ ·) ih

@[simp]
theorem functions_text (s : String) : (text s).functions = [] := rfl

@[simp]
theorem functions_blank : blank.functions = [] := rfl

theorem functions_append : (a ++ c).functions = a.functions ++ c.functions := by
  simp [functions]

theorem functions_all (l : List Code) : (all l).functions = l.flatMap functions := by
  simp [functions, blocks_all, List.filterMap_flatMap]
  rfl

theorem functions_spaced (l : List Code) : (spaced l).functions = l.flatMap functions := by
  simp [functions, blocks_spaced, List.filterMap_flatMap]
  rfl

theorem functions_of_blocks (h : c.blocks = []) : c.functions = [] := by
  rw [functions, h]
  rfl

theorem functions_braces {name : String} (h : functionName? (head.text ++ " \x7b") = some name) :
    (braces head body).functions = [name] := by
  show [(head ++ Expr.plain " \x7b", body)].filterMap _ = _
  exact List.filterMap_cons_some h

theorem clientFunctions_append : (a ++ c).clientFunctions client =
    a.clientFunctions client ++ c.clientFunctions client := by
  simp [clientFunctions]

theorem clientFunctions_all (l : List Code) :
    (all l).clientFunctions client = l.flatMap (clientFunctions client) := by
  simp [clientFunctions, blocks_all, List.flatMap_assoc]
  rfl

theorem clientFunctions_spaced (l : List Code) :
    (spaced l).clientFunctions client = l.flatMap (clientFunctions client) := by
  simp [clientFunctions, blocks_spaced, List.flatMap_assoc]
  rfl

theorem clientFunctions_of_blocks (h : c.blocks = []) : c.clientFunctions client = [] := by
  rw [clientFunctions, h]
  rfl

theorem clientFunctions_braces (h : head.text ++ " \x7b" ∈ clientOpenings client) :
    (braces head body).clientFunctions client = body.functions := by
  show [(head ++ Expr.plain " \x7b", body)].flatMap _ = _
  rw [List.flatMap_singleton]
  exact if_pos h

/-- A block that opens otherwise gives none. -/
theorem clientFunctions_braces_of_not_mem (h : head.text ++ " \x7b" ∉ clientOpenings client) :
    (braces head body).clientFunctions client = [] := by
  show [(head ++ Expr.plain " \x7b", body)].flatMap _ = _
  rw [List.flatMap_singleton]
  exact if_neg h

end Code

/-! ## The files that extend the client -/

namespace Crate

variable {b : Blueprint} {o : Operation} {client : String}

/-- A function of which the name is in the first pieces of its opening line. -/
theorem functionName?_of {first second third start name : String} {pieces : List Expr}
    (opening : String) (hname : '(' ∉ name.toList) (hstart : start = "pub fn " ∨ start = "fn ")
    (hopening : opening.toList.head? = some '(')
    (h : first ++ (second ++ third) = start ++ (name ++ opening)) :
    functionName? ((Expr.of (.plain first :: .plain second :: .plain third :: pieces)).text ++
      " \x7b") = some name := by
  have htail : opening.toList = '(' :: opening.toList.tail :=
    (List.cons_head?_tail hopening).symm
  have htext : (Expr.of (.plain first :: .plain second :: .plain third :: pieces)).text ++
      " \x7b" = start ++ (name ++ (opening ++ ((Expr.of pieces).text ++ " \x7b"))) := by
    show first ++ (second ++ (third ++ (Expr.of pieces).text)) ++ " \x7b" = _
    have happend := congrArg (· ++ ((Expr.of pieces).text ++ " \x7b")) h
    simpa only [String.append_assoc] using happend
  rw [htext]
  refine functionName?_eq (opening.toList.tail ++ ((Expr.of pieces).text ++ " \x7b").toList)
    hname ?_
  rw [String.toList_append, String.toList_append, String.toList_append, htail]
  rcases hstart with rfl | rfl
  · exact .inl rfl
  · exact .inr rfl

/-- What opens a block of the client's methods is told from other openings by how it begins, -/
theorem head_not_mem_clientOpenings {keywords : String} {pieces : List Expr}
    (hlength : 5 ≤ keywords.toList.length) (h : keywords.toList.take 5 ≠ "impl<".toList) :
    (Expr.of (.plain keywords :: pieces)).text ++ " \x7b" ∉ Code.clientOpenings client := by
  have hstart : ∀ s ∈ Code.clientOpenings client, s.toList.take 5 = "impl<".toList := by
    simp only [Code.clientOpenings, List.forall_mem_cons, String.toList_append]
    exact ⟨rfl, rfl, rfl, nofun⟩
  intro hmem
  have hmem := hstart _ hmem
  rw [show (Expr.of (.plain keywords :: pieces)).text = keywords ++ (Expr.of pieces).text from rfl,
    String.append_assoc, String.toList_append, List.take_append_of_le_length hlength] at hmem
  exact h hmem

/-- or by how it ends. -/
theorem not_mem_clientOpenings_of_end {s ending : String} (hlength : ending.length = 5)
    (hending : ending ≠ "<T> \x7b") : s ++ ending ∉ Code.clientOpenings client := by
  intro hs
  simp only [Code.clientOpenings, List.mem_cons, List.not_mem_nil, or_false] at hs
  rcases hs with hs | hs | hs <;> exact append_ne_append hlength hending hs

theorem clientOpening_text (keywords : String) :
    (Expr.of [.plain keywords, .plain client, .plain "<T>"]).text ++ " \x7b" =
      keywords ++ client ++ "<T> \x7b" := by
  show keywords ++ (client ++ ("<T>" ++ "")) ++ " \x7b" = _
  rw [String.append_empty, String.append_assoc, String.append_assoc, String.append_assoc]
  rfl

@[simp]
theorem functions_operationMethod (o : Operation) :
    (operationMethod b.service o).functions = [methodName o] := by
  have hname : ∀ pieces : List Expr, functionName? ((Expr.of (.plain "pub fn " ::
      .plain (methodName o) :: .plain "(&self, input: &" :: pieces)).text ++ " \x7b") =
        some (methodName o) :=
    fun pieces => functionName?_of "(&self, input: &" (not_mem_methodName o) (.inl rfl) rfl rfl
  have hnone : (errorDocumentation b.service o).blocks = [] := by
    rw [errorDocumentation]
    simp [Code.blocks_all]
  rw [operationMethod, Code.functions_all]
  simp only [List.flatMap_cons, List.flatMap_nil]
  rw [Code.functions_braces (hname _), Code.functions_of_blocks hnone]
  simp [Code.functions]

/-- The files of the types and the operations give no methods to the client. -/
theorem clientFunctions_structCode {type : String} {fields : List Field} {methods : Option Code} :
    (structCode type fields methods).clientFunctions client = [] := by
  have hstruct : (Expr.of ["pub struct ", .plain type]).text ++ " \x7b" ∉
      Code.clientOpenings client := head_not_mem_clientOpenings (by decide) (by decide)
  have himpl : (Expr.of ["impl ", .plain type]).text ++ " \x7b" ∉ Code.clientOpenings client :=
    head_not_mem_clientOpenings (by decide) (by decide)
  rw [structCode, Code.clientFunctions_all]
  simp only [List.flatMap_cons, List.flatMap_nil]
  rw [Code.clientFunctions_braces_of_not_mem hstruct, Code.clientFunctions_braces_of_not_mem himpl]
  simp [Code.clientFunctions]

theorem clientFunctions_enumCode {type : String} {doc : Option String} {all : List Variant} :
    (enumCode type doc all).clientFunctions client = [] := by
  have hopening : ∀ keywords ∈ ["pub enum ", "impl ", "impl From<&str> for ",
      "impl From<String> for ", "impl std::fmt::Display for "],
      (Expr.of [.plain keywords, .plain type]).text ++ " \x7b" ∉ Code.clientOpenings client := by
    have hstart : ∀ keywords ∈ ["pub enum ", "impl ", "impl From<&str> for ",
        "impl From<String> for ", "impl std::fmt::Display for "],
        5 ≤ keywords.toList.length ∧ keywords.toList.take 5 ≠ "impl<".toList := by decide
    exact fun keywords h =>
      head_not_mem_clientOpenings (hstart keywords h).1 (hstart keywords h).2
  rw [enumCode, Code.clientFunctions_all]
  simp only [List.flatMap_cons, List.flatMap_nil]
  rw [Code.clientFunctions_braces_of_not_mem (hopening _ (by simp)),
    Code.clientFunctions_braces_of_not_mem (hopening _ (by simp)),
    Code.clientFunctions_braces_of_not_mem (hopening _ (by simp)),
    Code.clientFunctions_braces_of_not_mem (hopening _ (by simp)),
    Code.clientFunctions_braces_of_not_mem (hopening _ (by simp))]
  simp [Code.clientFunctions]

theorem clientFunctions_moduleFile {title : String} {l : List Module} :
    (moduleFile title l).clientFunctions client = [] := by
  refine Code.clientFunctions_of_blocks ?_
  simp [moduleFile, Code.blocks_all]

theorem clientFunctions_library {p : Package} : p.library.clientFunctions client = [] := by
  refine Code.clientFunctions_of_blocks ?_
  simp [Package.library, Code.blocks_all]

/-- The names of the methods of the client's own file. -/
theorem clientFunctions_clientFile :
    (clientFile b).clientFunctions (clientType b.service) =
      ["new", "transport", "send"] ++ b.operations.map methodName := by
  have hstruct : (Expr.of ["pub struct ", .plain (clientType b.service), "<T>"]).text ++ " \x7b" ∉
      Code.clientOpenings (clientType b.service) :=
    head_not_mem_clientOpenings (by decide) (by decide)
  have hplain : (Expr.of ["impl<T> ", .plain (clientType b.service), "<T>"]).text ++ " \x7b" ∈
      Code.clientOpenings (clientType b.service) := by
    rw [clientOpening_text]
    exact List.mem_cons_self
  have hsending : (Expr.of ["impl<T: runtime::Transport> ", .plain (clientType b.service),
      "<T>"]).text ++ " \x7b" ∈ Code.clientOpenings (clientType b.service) := by
    rw [clientOpening_text]
    exact List.mem_cons_of_mem _ List.mem_cons_self
  have hnew : functionName? ((Expr.plain "pub fn new(transport: T) -> Self").text ++ " \x7b") =
      some "new" := by decide
  have htransport : functionName? ((Expr.plain "pub fn transport(&self) -> &T").text ++ " \x7b") =
      some "transport" := by decide
  have hsend : (sendMethod b).functions = ["send"] := by
    have hname : functionName? ((Expr.plain
      "fn send(&self, request: runtime::Request) -> Result<runtime::Response, runtime::Error>").text
        ++ " \x7b") = some "send" := by decide
    rw [sendMethod, Code.functions_all]
    simp only [List.flatMap_cons, List.flatMap_nil]
    rw [Code.functions_braces hname]
    rfl
  rw [clientFile, Code.clientFunctions_all]
  simp only [List.flatMap_cons, List.flatMap_nil]
  rw [Code.clientFunctions_braces_of_not_mem hstruct, Code.clientFunctions_braces hplain,
    Code.clientFunctions_braces hsending, Code.functions_append, hsend, Code.functions_all,
    Code.functions_all]
  simp only [List.flatMap_cons, List.flatMap_nil]
  rw [Code.functions_braces hnew, Code.functions_braces htransport]
  simp only [Code.clientFunctions, usingRuntime, List.flatMap_map, functions_operationMethod,
    ← List.map_eq_flatMap, Code.functions_text, Code.functions_blank]
  simp

/-- The names of the methods for an iterator. -/
def Pages.names (p : Pages) : List String :=
  (bareIdent p.method ++ "_pages") ::
    (p.items.map fun _ => bareIdent p.method ++ "_items").toList

theorem clientImpl_mem : (Expr.of ["impl<T: runtime::Transport> crate::client::", .plain client,
    "<T>"]).text ++ " \x7b" ∈ Code.clientOpenings client := by
  rw [clientOpening_text]
  exact List.mem_cons_of_mem _ (List.mem_cons_of_mem _ List.mem_cons_self)

theorem clientFunctions_iterator {p : Pages} :
    (p.iterator client).clientFunctions client = [] := by
  have hstruct : (Expr.of ["pub struct ", .plain p.type, "<'a, T>"]).text ++ " \x7b" ∉
      Code.clientOpenings client := head_not_mem_clientOpenings (by decide) (by decide)
  have himpl : (Expr.of ["impl<T: runtime::Transport> Iterator for ", .plain p.type,
      "<'_, T>"]).text ++ " \x7b" ∉ Code.clientOpenings client := by
    have htext : (Expr.of ["impl<T: runtime::Transport> Iterator for ", .plain p.type,
        "<'_, T>"]).text ++ " \x7b" =
          "impl<T: runtime::Transport> Iterator for " ++ p.type ++ "<'_," ++ " T> \x7b" := by
      show "impl<T: runtime::Transport> Iterator for " ++ (p.type ++ ("<'_, T>" ++ "")) ++
        " \x7b" = _
      rw [String.append_empty, String.append_assoc, String.append_assoc, String.append_assoc,
        String.append_assoc]
      rfl
    rw [htext]
    exact not_mem_clientOpenings_of_end rfl (by decide)
  rw [Pages.iterator, Code.clientFunctions_all]
  simp only [List.flatMap_cons, List.flatMap_nil]
  rw [Code.clientFunctions_braces_of_not_mem hstruct,
    Code.clientFunctions_braces_of_not_mem himpl]
  simp [Code.clientFunctions]

/-- The methods for an iterator have the method of the operation and an ending for their name. -/
theorem functionName?_ending {s : String} (ending third : String) {pieces : List Expr}
    (hs : '(' ∉ s.toList) (hending : '(' ∉ ending.toList)
    (hthird : third = ending ++ "(&self, input: ") :
    functionName? ((Expr.of (.plain "pub fn " :: .plain s :: .plain third :: pieces)).text ++
      " \x7b") = some (s ++ ending) := by
  refine functionName?_of "(&self, input: " (not_mem_append hs hending) (.inl rfl) rfl ?_
  rw [hthird, String.append_assoc]

theorem functions_pagesMethod {p : Pages} (h : '(' ∉ (bareIdent p.method).toList) :
    p.pagesMethod.functions = [bareIdent p.method ++ "_pages"] := by
  rw [Pages.pagesMethod, Code.functions_all]
  simp only [List.flatMap_cons, List.flatMap_nil]
  rw [Code.functions_braces
    (functionName?_ending "_pages" "_pages(&self, input: " h (by decide) rfl)]
  cases p.limit <;> simp [Code.functions]

theorem functions_itemsMethod {p : Pages} {items : Items} (h : '(' ∉ (bareIdent p.method).toList) :
    (p.itemsMethod items).functions = [bareIdent p.method ++ "_items"] := by
  rw [Pages.itemsMethod, Code.functions_all]
  simp only [List.flatMap_cons, List.flatMap_nil]
  rw [Code.functions_braces
    (functionName?_ending "_items" "_items(&self, input: " h (by decide) rfl)]
  simp [Code.functions]

/-- The names of the methods of the file with the iterators. -/
theorem clientFunctions_pagesFile {l : List Pages}
    (h : ∀ p ∈ l, '(' ∉ (bareIdent p.method).toList) :
    (pagesFile b l).clientFunctions (clientType b.service) = l.flatMap Pages.names := by
  have hcode : ∀ p ∈ l, (p.code (clientType b.service)).clientFunctions (clientType b.service) =
      p.names := by
    intro p hp
    rw [Pages.code, Code.clientFunctions_all]
    simp only [List.flatMap_cons, List.flatMap_nil]
    rw [Code.clientFunctions_braces clientImpl_mem, clientFunctions_iterator,
      Code.functions_append, functions_pagesMethod (h p hp), Pages.names]
    cases p.items with
    | none => rfl
    | some items => simp [functions_itemsMethod (h p hp), Code.clientFunctions]
  rw [pagesFile, Code.clientFunctions_all]
  simp only [List.flatMap_cons, List.flatMap_nil]
  rw [Code.clientFunctions_spaced, List.flatMap_map, List.flatMap_congr hcode]
  simp [Code.clientFunctions, usingRuntime]

/-- The names of the methods for a waiter. -/
def waiterNames (words : String) : List String :=
  ["wait_until_" ++ words, "wait_until_" ++ words ++ "_with", "poll_" ++ words]

theorem functions_waiterCode {w : Waiter} {p : Poll} :
    (waiterCode b w o p).functions = waiterNames (Naming.snake w.name) := by
  have hsnake : '(' ∉ (Naming.snake w.name).toList := Naming.not_mem_snake (by decide) w.name
  generalize hwords : Naming.snake w.name = words at hsnake
  have hwait : '(' ∉ ("wait_until_" ++ words).toList := not_mem_append (by decide) hsnake
  have hwith : '(' ∉ ("wait_until_" ++ words ++ "_with").toList :=
    not_mem_append hwait (by decide)
  have hpoll : '(' ∉ ("poll_" ++ words).toList := not_mem_append (by decide) hsnake
  have hname : ∀ pieces : List Expr, functionName? ((Expr.of (.plain "pub fn wait_until_" ::
      .plain words :: .plain "(&self, input: &" :: pieces)).text ++ " \x7b") =
        some ("wait_until_" ++ words) := by
    refine fun pieces => functionName?_of "(&self, input: &" hwait (.inl rfl) rfl ?_
    show "pub fn " ++ "wait_until_" ++ (words ++ "(&self, input: &") = _
    rw [String.append_assoc, String.append_assoc]
  have hnameWith : ∀ pieces : List Expr, functionName? ((Expr.of (.plain "pub fn wait_until_" ::
      .plain words :: .plain "_with(&self, input: &" :: pieces)).text ++ " \x7b") =
        some ("wait_until_" ++ words ++ "_with") := by
    refine fun pieces => functionName?_of "(&self, input: &" hwith (.inl rfl) rfl ?_
    show "pub fn " ++ "wait_until_" ++ (words ++ ("_with" ++ "(&self, input: &")) = _
    rw [String.append_assoc, String.append_assoc, String.append_assoc]
  have hnamePoll : ∀ pieces : List Expr, functionName? ((Expr.of (.plain "fn poll_" ::
      .plain words :: .plain "(&self, input: &" :: pieces)).text ++ " \x7b") =
        some ("poll_" ++ words) := by
    refine fun pieces => functionName?_of "(&self, input: &" hpoll (.inr rfl) rfl ?_
    show "fn " ++ "poll_" ++ (words ++ "(&self, input: &") = _
    rw [String.append_assoc, String.append_assoc]
  rw [waiterCode, hwords, Code.functions_all]
  simp only [List.flatMap_cons, List.flatMap_nil]
  rw [Code.functions_braces (hname _), Code.functions_braces (hnameWith _), Poll.code,
    Code.functions_braces (hnamePoll _)]
  simp [Code.functions, waiterDocumentation, waiterNames]

/-- The names of the methods of the file with the waiters. -/
theorem clientFunctions_waitersFile {l : List (Waiter × Code)}
    (h : ∀ x ∈ l, x.2.functions = waiterNames (Naming.snake x.1.name)) :
    (waitersFile b (l.map (·.2))).clientFunctions (clientType b.service) =
      l.flatMap fun x => waiterNames (Naming.snake x.1.name) := by
  rw [waitersFile, Code.clientFunctions_all]
  simp only [List.flatMap_cons, List.flatMap_nil]
  rw [Code.clientFunctions_braces clientImpl_mem, Code.functions_spaced, List.flatMap_map,
    List.flatMap_congr h]
  simp [Code.clientFunctions, usingRuntime]

end Crate

end Clientwright

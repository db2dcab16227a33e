import Clientwright.Crate.Generation

/-!
# What code depends on

A blueprint is a service with what was settled about it, and only one part of
that depends on which operations were selected: the usage. Names and boxes are
settled over the whole service. So code that was emitted without a look at the
usage is the same code in every selection.

The paginators and the waiters of the service are looked at by even less. Nothing
is settled over them, and the code of an operation or a type is emitted without
them; what is paged and waited for is asked at the very end. A blueprint may
therefore be `revised` in all of these at once and hardly any code changes.

Each emitter gets one equation here that says so. The emitters of values recurse
over the value, which holds nothing of the blueprint, and all the others only put
together what those emit. The files of structures do look at the usage, and so
does whatever goes through all operations; their equations keep it as it is.
-/

namespace Clientwright

namespace Service

/-- The service with other paginators and waiters. -/
def revised (s : Service) (p : Table Pagination) (w : Table Waiter) : Service :=
  { s with paginators := p, waiters := w }

variable (s : Service) (p : Table Pagination) (w : Table Waiter)

@[simp]
theorem metadata_revised : (s.revised p w).metadata = s.metadata := rfl

@[simp]
theorem shape?_revised : (s.revised p w).shape? = s.shape? := rfl

@[simp]
theorem structure?_revised : (s.revised p w).structure? = s.structure? := rfl

@[simp]
theorem operation?_revised : (s.revised p w).operation? = s.operation? := rfl

@[simp]
theorem inputOf?_revised : (s.revised p w).inputOf? = s.inputOf? := rfl

@[simp]
theorem outputOf?_revised : (s.revised p w).outputOf? = s.outputOf? := rfl

@[simp]
theorem valueWithin_revised : (s.revised p w).valueWithin = s.valueWithin := by
  funext available key
  fun_induction valueWithin s available key with
  | case1 available key h => rw [valueWithin, shape?_revised, h]
  | case2 available key t h => rw [valueWithin, shape?_revised, h]
  | case3 available key t h => rw [valueWithin, shape?_revised, h]
  | case4 available key l h hmem ih =>
      rw [valueWithin, shape?_revised, h, ← ih]
      exact if_pos hmem
  | case5 available key l h hmem =>
      rw [valueWithin, shape?_revised, h]
      exact if_neg hmem
  | case6 available key m h hmem ih ih' =>
      rw [valueWithin, shape?_revised, h, ← ih, ← ih']
      exact if_pos hmem
  | case7 available key m h hmem =>
      rw [valueWithin, shape?_revised, h]
      exact if_neg hmem

@[simp]
theorem value_revised : (s.revised p w).value = s.value := by
  funext key
  rw [value, value, valueWithin_revised]
  rfl

theorem heldStructures_revised : (s.revised p w).heldStructures = s.heldStructures := by
  funext t
  rw [heldStructures, heldStructures, value_revised]

theorem heldEnums_revised : (s.revised p w).heldEnums = s.heldEnums := by
  funext t
  rw [heldEnums, heldEnums, value_revised]

theorem reachedStructures_revised : (s.revised p w).reachedStructures = s.reachedStructures := by
  funext t
  rw [reachedStructures, reachedStructures, structureWalk, heldStructures_revised]
  rfl

theorem analyze_revised (selection : List String) :
    Usage.analyze (s.revised p w) selection = Usage.analyze s selection := by
  simp only [Usage.analyze, reachedStructures_revised, heldEnums_revised]
  rfl

end Service

namespace Blueprint

/-- The blueprint with another usage. -/
def withUsage (b : Blueprint) (u : Usage) : Blueprint := { b with usage := u }

/-- The blueprint with another usage, and a service with other paginators and waiters. -/
def revised (b : Blueprint) (u : Usage) (p : Table Pagination) (w : Table Waiter) : Blueprint where
  service := b.service.revised p w
  usage := u
  names := b.names
  boxed := b.boxed

/-- What is settled about a service is settled without its paginators and waiters. -/
theorem of_revised (s : Service) (p : Table Pagination) (w : Table Waiter)
    (selection : List String) : Blueprint.of (s.revised p w) selection =
      (Blueprint.of s selection).map fun b => b.revised b.usage p w := by
  have hboxed : (s.revised p w).boxedMembers = s.boxedMembers := rfl
  have hnames : TypeNames.assign (s.revised p w) = TypeNames.assign s := rfl
  rw [Blueprint.of, Blueprint.of, Service.analyze_revised, hboxed, hnames]
  cases Usage.analyze s selection with
  | ok u => rfl
  | error fault => rfl

variable (b : Blueprint) (u : Usage) (p : Table Pagination) (w : Table Waiter)

@[simp]
theorem service_revised : (b.revised u p w).service = b.service.revised p w := rfl

@[simp]
theorem protocol_revised : (b.revised u p w).protocol = b.protocol := rfl

@[simp]
theorem value_revised : (b.revised u p w).value = b.value :=
  Service.value_revised ..

@[simp]
theorem typeName_revised : (b.revised u p w).typeName = b.typeName := rfl

@[simp]
theorem moduleName_revised : (b.revised u p w).moduleName = b.moduleName := rfl

@[simp]
theorem isBoxed_revised : (b.revised u p w).isBoxed = b.isBoxed := rfl

@[simp]
theorem bodyFormat_revised : (b.revised u p w).bodyFormat = b.bodyFormat := rfl

@[simp]
theorem memberFormat_revised : (b.revised u p w).memberFormat = b.memberFormat := by
  funext m
  rw [memberFormat, memberFormat, value_revised, protocol_revised]

@[simp]
theorem typeOf_revised : (b.revised u p w).typeOf = b.typeOf := by
  funext v
  induction v with
  | «structure» key s => rfl
  | scalar key s => rfl
  | list key l item ih => rw [typeOf, typeOf, ih]
  | map key m keys values _ ih => rw [typeOf, typeOf, ih]
  | unknown key => rfl
  | endless key => rfl

@[simp]
theorem shapeType_revised : (b.revised u p w).shapeType = b.shapeType := by
  funext shape
  rw [shapeType, shapeType, typeOf_revised, value_revised]

end Blueprint

variable (b : Blueprint) (u : Usage) (p : Table Pagination) (w : Table Waiter)

/-! ## Requests -/

namespace Request

namespace JsonBody

@[simp]
theorem value_revised : value (b.revised u p w) = value b := by
  funext v
  induction v with
  | «structure» key s => rfl
  | scalar key s => rfl
  | list key l item ih =>
      funext name format depth
      rw [value, value, ih, Blueprint.bodyFormat_revised]
  | map key m keys values _ ih =>
      funext name format depth
      rw [value, value, ih, Blueprint.bodyFormat_revised]
  | unknown key => rfl
  | endless key => rfl

@[simp]
theorem member_revised : member (b.revised u p w) = member b := by
  funext m
  simp only [member, value_revised, Blueprint.value_revised,
    Blueprint.memberFormat_revised]

@[simp]
theorem members_revised : members (b.revised u p w) = members b := by
  funext l
  simp only [members, member_revised]

end JsonBody

namespace XmlBody

@[simp]
theorem value_revised : value (b.revised u p w) = value b := by
  funext v
  induction v with
  | «structure» key s => rfl
  | scalar key s => rfl
  | list key l item ih =>
      funext name element format depth
      rw [value, value, ih, Blueprint.bodyFormat_revised]
  | map key m keys values _ ih =>
      funext name element format depth
      rw [value, value, ih, Blueprint.bodyFormat_revised]
  | unknown key => rfl
  | endless key => rfl

@[simp]
theorem attributeOf_revised : attributeOf (b.revised u p w) = attributeOf b := by
  funext m
  simp only [attributeOf, Blueprint.value_revised, Blueprint.memberFormat_revised]

@[simp]
theorem attributes_revised : attributes (b.revised u p w) = attributes b := by
  funext l
  rw [attributes, attributes, attributeOf_revised]

@[simp]
theorem elementOf_revised : elementOf (b.revised u p w) = elementOf b := by
  funext m
  simp only [elementOf, value_revised, Blueprint.value_revised,
    Blueprint.memberFormat_revised]

@[simp]
theorem elements_revised : elements (b.revised u p w) = elements b := by
  funext l
  rw [elements, elements, elementOf_revised]

end XmlBody

namespace QueryBody

@[simp]
theorem listPattern_revised : listPattern (b.revised u p w) = listPattern b := rfl

@[simp]
theorem memberKey_revised : memberKey (b.revised u p w) = memberKey b := by
  funext m
  rw [memberKey, memberKey, Blueprint.protocol_revised, Blueprint.value_revised]

@[simp]
theorem value_revised : value (b.revised u p w) = value b := by
  funext v
  induction v with
  | «structure» key s => rfl
  | scalar key s => rfl
  | list key l item ih =>
      funext name key flattened format depth
      rw [value, value, ih, Blueprint.bodyFormat_revised, listPattern_revised,
        Blueprint.protocol_revised]
  | map key m keys values _ ih =>
      funext name key flattened format depth
      rw [value, value, ih, Blueprint.bodyFormat_revised]
  | unknown key => rfl
  | endless key => rfl

@[simp]
theorem member_revised : member (b.revised u p w) = member b := by
  funext around m
  simp only [member, value_revised, memberKey_revised, Blueprint.value_revised,
    Blueprint.memberFormat_revised]

@[simp]
theorem members_revised : members (b.revised u p w) = members b := by
  funext around l
  rw [members, members, member_revised]

end QueryBody

@[simp]
theorem jsonBody_revised : jsonBody (b.revised u p w) = jsonBody b := by
  funext o members
  simp only [jsonBody, JsonBody.members_revised, Blueprint.service_revised,
    Service.metadata_revised]

@[simp]
theorem queryBody_revised : queryBody (b.revised u p w) = queryBody b := by
  funext o members
  simp only [queryBody, QueryBody.members_revised, Blueprint.service_revised,
    Service.metadata_revised]

@[simp]
theorem payloadBody_revised : payloadBody (b.revised u p w) = payloadBody b := by
  funext m structured
  rw [payloadBody, payloadBody, Blueprint.value_revised]

@[simp]
theorem payloadName_revised : payloadName (b.revised u p w) = payloadName b := rfl

@[simp]
theorem restJsonBody_revised : restJsonBody (b.revised u p w) = restJsonBody b := by
  funext input
  simp only [restJsonBody, payloadBody_revised, payloadName_revised,
    JsonBody.members_revised]

@[simp]
theorem restXmlBody_revised : restXmlBody (b.revised u p w) = restXmlBody b := by
  funext input
  simp only [restXmlBody, payloadBody_revised, payloadName_revised,
    XmlBody.attributes_revised, XmlBody.elements_revised, Blueprint.service_revised,
    Service.structure?_revised]

@[simp]
theorem body_revised : body (b.revised u p w) = body b := by
  funext o input
  simp only [body, jsonBody_revised, queryBody_revised, restJsonBody_revised,
    restXmlBody_revised, Blueprint.protocol_revised]

@[simp]
theorem label_revised : label (b.revised u p w) = label b := by
  funext o input index place
  simp only [label, Blueprint.value_revised, Blueprint.memberFormat_revised]

@[simp]
theorem labels_revised : labels (b.revised u p w) = labels b := by
  funext o input index placeholders
  induction placeholders generalizing index with
  | nil => rfl
  | cons p rest ih => simp only [labels, label_revised, ih]

@[simp]
theorem pathOf_revised : pathOf (b.revised u p w) = pathOf b := by
  funext o input
  simp only [pathOf, labels_revised]

@[simp]
theorem binding_revised : binding (b.revised u p w) = binding b := by
  funext m
  simp only [binding, Blueprint.value_revised, Blueprint.memberFormat_revised]

@[simp]
theorem bindings_revised : bindings (b.revised u p w) = bindings b := by
  funext input
  rw [bindings, bindings, binding_revised]

@[simp]
theorem method_revised : method (b.revised u p w) = method b := by
  funext o input
  simp only [method, pathOf_revised, bindings_revised, body_revised,
    Blueprint.protocol_revised]

end Request

/-! ## Responses -/

namespace Response

@[simp]
theorem textOf_revised : textOf (b.revised u p w) = textOf b := rfl

@[simp]
theorem boxing_revised : boxing (b.revised u p w) = boxing b := rfl

namespace JsonBody

@[simp]
theorem value_revised : value (b.revised u p w) = value b := by
  funext v
  induction v with
  | «structure» key s => rfl
  | scalar key s => rfl
  | list key l item ih =>
      funext name format depth
      rw [value, value, ih, Blueprint.bodyFormat_revised]
  | map key m keys values _ ih =>
      funext name format depth
      rw [value, value, ih, Blueprint.bodyFormat_revised]
  | unknown key => rfl
  | endless key => rfl

@[simp]
theorem member_revised : member (b.revised u p w) = member b := by
  funext owner m object
  simp only [member, value_revised, boxing_revised, Blueprint.value_revised,
    Blueprint.memberFormat_revised]

end JsonBody

namespace XmlBody

@[simp]
theorem value_revised : value (b.revised u p w) = value b := by
  funext v
  induction v with
  | «structure» key s => rfl
  | scalar key s => rfl
  | list key l item ih =>
      funext name format depth
      rw [value, value, ih, Blueprint.bodyFormat_revised]
  | map key m keys values _ ih =>
      funext name format depth
      rw [value, value, ih, Blueprint.bodyFormat_revised]
  | unknown key => rfl
  | endless key => rfl

@[simp]
theorem member_revised : member (b.revised u p w) = member b := by
  funext owner m node
  simp only [member, value_revised, textOf_revised, boxing_revised,
    Blueprint.value_revised, Blueprint.memberFormat_revised,
    Blueprint.bodyFormat_revised]

end XmlBody

@[simp]
theorem payload_revised : payload (b.revised u p w) = payload b := by
  funext output m
  rw [payload, payload, Blueprint.value_revised]
  rfl

@[simp]
theorem body_revised : body (b.revised u p w) = body b := by
  funext o output
  simp only [body, JsonBody.member_revised, XmlBody.member_revised,
    Blueprint.protocol_revised]

@[simp]
theorem headerOf_revised : headerOf (b.revised u p w) = headerOf b := rfl

@[simp]
theorem binding_revised : binding (b.revised u p w) = binding b := by
  funext output m
  simp only [binding, headerOf_revised, textOf_revised, Blueprint.value_revised,
    Blueprint.memberFormat_revised]

@[simp]
theorem method_revised : method (b.revised u p w) = method b := by
  funext o output
  simp only [method, payload_revised, body_revised, binding_revised]

end Response

/-! ## Files of operations -/

namespace Crate

@[simp]
theorem ofMember_revised : Field.ofMember (b.revised u p w) = Field.ofMember b := by
  funext owner m
  rw [Field.ofMember, Field.ofMember, Blueprint.shapeType_revised,
    Blueprint.isBoxed_revised]

@[simp]
theorem fieldsOf_revised : fieldsOf (b.revised u p w) = fieldsOf b := by
  funext s
  rw [fieldsOf, fieldsOf, ofMember_revised]

theorem inputFile_revised : inputFile (b.revised u p w) = inputFile b := by
  funext o
  simp only [inputFile, Request.method_revised, fieldsOf_revised,
    Blueprint.service_revised, Service.inputOf?_revised]

theorem outputFile?_revised : outputFile? (b.revised u p w) = outputFile? b := by
  funext o
  simp only [outputFile?, Response.method_revised, fieldsOf_revised,
    Blueprint.service_revised, Service.outputOf?_revised]

/-! ## Files of types -/

@[simp]
theorem writer_revised : writer (b.revised u p w) = writer b := by
  funext s
  simp only [writer, jsonWriter, xmlWriter, queryWriter, Request.JsonBody.members_revised,
    Request.XmlBody.attributes_revised, Request.XmlBody.elements_revised,
    Request.QueryBody.members_revised, Blueprint.protocol_revised]

@[simp]
theorem reader_revised : reader (b.revised u p w) = reader b := by
  funext s
  simp only [reader, jsonReader, xmlReader, Response.JsonBody.member_revised,
    Response.XmlBody.member_revised, Blueprint.protocol_revised]

/-- The conversions of a structure are in its file if they are used. -/
@[simp]
theorem structureFile_revised :
    structureFile (b.revised b.usage p w) = structureFile b := by
  funext s
  simp only [structureFile, writer_revised, reader_revised, fieldsOf_revised,
    Blueprint.typeName_revised]
  rfl

@[simp]
theorem clientFile_revised : clientFile (b.revised b.usage p w) = clientFile b := rfl

@[simp]
theorem generateOperations_revised :
    generateOperations (b.revised b.usage p w) = generateOperations b := by
  have hoperation : generateOperation (b.revised b.usage p w) = generateOperation b := by
    funext n
    simp only [generateOperation, inputFile_revised, outputFile?_revised,
      Blueprint.service_revised, Service.operation?_revised]
  rw [generateOperations, generateOperations, hoperation]
  rfl

@[simp]
theorem generateTypes_revised : generateTypes (b.revised b.usage p w) = generateTypes b := by
  have hstructure : generateStructure (b.revised b.usage p w) = generateStructure b := by
    funext n
    simp only [generateStructure, structureFile_revised, Blueprint.moduleName_revised,
      Blueprint.service_revised, Service.structure?_revised]
    rfl
  have henum : generateEnum (b.revised b.usage p w) = generateEnum b := rfl
  rw [generateTypes, generateTypes, hstructure, henum]
  rfl

/-! ## Pages and waiters -/

@[simp]
theorem toToken_revised : Access.toToken (b.revised u p w) = Access.toToken b := by
  funext selector shape isFirst steps
  induction steps generalizing shape isFirst with
  | nil => rfl
  | cons step rest ih =>
    simp only [Access.toToken, ih]
    rfl

@[simp]
theorem toValues_revised : Access.toValues (b.revised u p w) = Access.toValues b := by
  funext selector shape steps
  induction steps generalizing shape with
  | nil => rfl
  | cons step rest ih =>
    simp only [Access.toValues, ih]
    rfl

@[simp]
theorem memberType_revised : (b.revised u p w).memberType = b.memberType := by
  funext owner m
  rw [Blueprint.memberType, Blueprint.memberType, Blueprint.shapeType_revised,
    Blueprint.isBoxed_revised]

@[simp]
theorem sameType_revised : sameType (b.revised u p w) = sameType b := by
  funext n m
  rw [sameType, sameType, Blueprint.shapeType_revised]

@[simp]
theorem tokenWays_revised : tokenWays (b.revised u p w) = tokenWays b := by
  funext selector output before alternatives
  induction alternatives generalizing before with
  | nil => rfl
  | cons steps rest ih =>
      simp only [tokenWays, sameType_revised, toToken_revised, ih]

@[simp]
theorem tokenOf_revised : tokenOf (b.revised u p w) = tokenOf b := by
  funext output s
  simp only [tokenOf, tokenWays_revised]

@[simp]
theorem assignment_revised : assignment (b.revised u p w) = assignment b := by
  funext input output pair
  simp only [assignment, tokenOf_revised, memberType_revised, Blueprint.shapeType_revised]

@[simp]
theorem moreResults_revised : moreResults (b.revised u p w) = moreResults b := by
  funext output s
  simp only [moreResults, tokenOf_revised, Blueprint.service_revised, Service.shape?_revised]

@[simp]
theorem items?_revised : items? (b.revised u p w) = items? b := by
  funext output pagination
  simp only [items?, Blueprint.typeOf_revised, Blueprint.value_revised,
    Blueprint.service_revised, Service.structure?_revised]

@[simp]
theorem pagesOf_revised : pagesOf (b.revised u p w) = pagesOf b := by
  funext o pagination
  simp only [pagesOf, assignment_revised, moreResults_revised, items?_revised,
    Blueprint.service_revised, Service.inputOf?_revised]

@[simp]
theorem comparable_revised : comparable (b.revised u p w) = comparable b := by
  funext output s
  simp only [comparable, toValues_revised, Blueprint.service_revised, Service.shape?_revised]

@[simp]
theorem succeededQuestions_revised :
    succeededQuestions (b.revised u p w) = succeededQuestions b := by
  funext o acceptors
  induction acceptors with
  | nil => rfl
  | cons a rest ih => simp only [succeededQuestions, comparable_revised, ih]

@[simp]
theorem waiterAttempt_revised : waiterAttempt (b.revised u p w) = waiterAttempt b := by
  funext waiter
  simp only [waiterAttempt, pollOf, succeededQuestions_revised, Blueprint.service_revised,
    Service.operation?_revised]
  rfl

/-! ## Selections

Another selection is another usage and nothing else. -/

theorem inputFile_withUsage : inputFile (b.withUsage u) = inputFile b :=
  inputFile_revised b u b.service.paginators b.service.waiters

theorem outputFile?_withUsage : outputFile? (b.withUsage u) = outputFile? b :=
  outputFile?_revised b u b.service.paginators b.service.waiters

end Crate

namespace Blueprint

theorem service_withUsage : (b.withUsage u).service = b.service := rfl

theorem typeName_withUsage : (b.withUsage u).typeName = b.typeName := rfl

theorem moduleName_withUsage : (b.withUsage u).moduleName = b.moduleName := rfl

end Blueprint

end Clientwright

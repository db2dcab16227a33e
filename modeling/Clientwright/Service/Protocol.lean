/-!
# Protocols and bindings

How a service speaks: its wire protocol, the encodings that follow from it, the format of its
timestamps, and the part of an HTTP message in which a member travels.
-/

namespace Clientwright

/-- Wire protocol spoken by a service. -/
inductive Protocol where
  | json
  | restJson
  | restXml
  | query
  | ec2
  deriving DecidableEq, Repr, Inhabited

/-- How a request body or response body is encoded. -/
inductive Encoding where
  | json
  | xml
  | query
  deriving DecidableEq, Repr

/-- Wire format of a timestamp. -/
inductive TimestampFormat where
  | iso8601
  | unixTimestamp
  | rfc822
  deriving DecidableEq, Repr, Inhabited

/-- Where a member is bound in the HTTP message. -/
inductive Location where
  | body
  | header
  /-- all headers that share a prefix -/
  | headers
  | querystring
  | uri
  | statusCode
  deriving DecidableEq, Repr, Inhabited

namespace Protocol

/-- Every protocol. -/
def all : List Protocol := [.json, .restJson, .restXml, .query, .ec2]

/-- The name of the protocol in service definitions. -/
def name : Protocol → String
  | .json => "json"
  | .restJson => "rest-json"
  | .restXml => "rest-xml"
  | .query => "query"
  | .ec2 => "ec2"

/-- The protocol of that name. -/
def ofName? (s : String) : Option Protocol :=
  all.find? fun p => p.name == s

theorem ofName?_name (p : Protocol) : ofName? p.name = some p := by
  cases p <;> rfl

/-- Can members be bound to the URI, the headers and the query string? -/
def isRest : Protocol → Bool
  | .restJson | .restXml => true
  | _ => false

/-- How request bodies are written. -/
def requestEncoding : Protocol → Encoding
  | .json | .restJson => .json
  | .restXml => .xml
  | .query | .ec2 => .query

/-- How response bodies are read. -/
def responseEncoding : Protocol → Encoding
  | .json | .restJson => .json
  | .restXml | .query | .ec2 => .xml

/-- The format of timestamps in bodies, where nothing else is said. -/
def bodyTimestampFormat : Protocol → TimestampFormat
  | .json | .restJson => .unixTimestamp
  | _ => .iso8601

end Protocol

namespace Encoding

/-- The encoding's name. -/
def name : Encoding → String
  | .json => "Json"
  | .xml => "Xml"
  | .query => "Query"

end Encoding

namespace TimestampFormat

/-- Every format. -/
def all : List TimestampFormat := [.iso8601, .unixTimestamp, .rfc822]

/-- The name of the format in service definitions. -/
def name : TimestampFormat → String
  | .iso8601 => "iso8601"
  | .unixTimestamp => "unixTimestamp"
  | .rfc822 => "rfc822"

/-- The format of that name. -/
def ofName? (s : String) : Option TimestampFormat :=
  all.find? fun f => f.name == s

/-- The name of the format in generated code. -/
def variant : TimestampFormat → String
  | .iso8601 => "Iso8601"
  | .unixTimestamp => "UnixTimestamp"
  | .rfc822 => "Rfc822"

theorem ofName?_name (f : TimestampFormat) : ofName? f.name = some f := by
  cases f <;> rfl

end TimestampFormat

namespace Location

/-- Every location. -/
def all : List Location := [.body, .header, .headers, .querystring, .uri, .statusCode]

/-- The location's name in a stored service. -/
def variant : Location → String
  | .body => "Body"
  | .header => "Header"
  | .headers => "Headers"
  | .querystring => "Querystring"
  | .uri => "Uri"
  | .statusCode => "StatusCode"

/-- The location that a definition names; a member without a location is in the body, which has no
name of its own. -/
def ofName? : Option String → Option Location
  | none => some .body
  | some "header" => some .header
  | some "headers" => some .headers
  | some "querystring" => some .querystring
  | some "uri" => some .uri
  | some "statusCode" => some .statusCode
  | some _ => none

end Location

end Clientwright

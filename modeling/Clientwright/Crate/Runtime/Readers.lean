/-!
# Support code for reading

What every generated crate holds to read values from text, JSON and XML. The lines are those of the
file.
-/

namespace Clientwright.Crate.Runtime

/-- Values read from headers and texts. -/
def textModule : List String := [
  "/// Parsing of scalars from header, attribute and text values",
  "pub mod text \x7b",
  "    use super::\x7bbase64_decode, parse_timestamp, Error, TimestampFormat\x7d;",
  "    use chrono::\x7bDateTime, Utc\x7d;",
  "    use std::str::FromStr;",
  "",
  "    pub fn string(value: &str) -> Result<String, Error> \x7b",
  "        Ok(value.to_string())",
  "    \x7d",
  "",
  "    pub fn number<T: FromStr>(value: &str) -> Result<T, Error> \x7b",
  "        value",
  "            .trim()",
  "            .parse()",
  "            .map_err(|_| Error::InvalidResponse(format!(\"invalid number '\x7b\x7d'\", value)))",
  "    \x7d",
  "",
  "    pub fn boolean(value: &str) -> Result<bool, Error> \x7b",
  "        match value.trim() \x7b",
  "            \"true\" => Ok(true),",
  "            \"false\" => Ok(false),",
  "            other => Err(Error::InvalidResponse(format!(\"invalid boolean '\x7b\x7d'\", other))),",
  "        \x7d",
  "    \x7d",
  "",
  "    pub fn timestamp(value: &str, format: TimestampFormat) -> Result<DateTime<Utc>, Error> \x7b",
  "        parse_timestamp(value, format)",
  "    \x7d",
  "",
  "    pub fn blob(value: &str) -> Result<Vec<u8>, Error> \x7b",
  "        base64_decode(value)",
  "    \x7d",
  "",
  "    /// Items of a comma separated header list",
  "    pub fn split(value: &str) -> impl Iterator<Item = &str> \x7b",
  "        value.split(',').map(str::trim).filter(|item| !item.is_empty())",
  "    \x7d",
  "\x7d"]

/-- Values read from JSON. -/
def jsonModule : List String := [
  "/// Reading JSON values",
  "pub mod json \x7b",
  "    use super::\x7bbase64_decode, base64_encode, parse_timestamp, timestamp_from_epoch\x7d;",
  "    use super::\x7bformat_timestamp, Error, TimestampFormat\x7d;",
  "    use chrono::\x7bDateTime, Utc\x7d;",
  "    use serde_json::\x7bMap, Value\x7d;",
  "",
  "    fn unexpected(expected: &str, value: &Value) -> Error \x7b",
  "        Error::InvalidResponse(format!(\"expected \x7b\x7d, found \x7b\x7d\", expected, value))",
  "    \x7d",
  "",
  "    /// Non-null field of an object",
  "    pub fn field<'a>(object: &'a Map<String, Value>, name: &str) -> Option<&'a Value> \x7b",
  "        object.get(name).filter(|value| !value.is_null())",
  "    \x7d",
  "",
  "    pub fn object(value: &Value) -> Result<&Map<String, Value>, Error> \x7b",
  "        value.as_object().ok_or_else(|| unexpected(\"object\", value))",
  "    \x7d",
  "",
  "    pub fn array(value: &Value) -> Result<&Vec<Value>, Error> \x7b",
  "        value.as_array().ok_or_else(|| unexpected(\"array\", value))",
  "    \x7d",
  "",
  "    pub fn string(value: &Value) -> Result<String, Error> \x7b",
  "        value",
  "            .as_str()",
  "            .map(str::to_string)",
  "            .ok_or_else(|| unexpected(\"string\", value))",
  "    \x7d",
  "",
  "    pub fn integer(value: &Value) -> Result<i32, Error> \x7b",
  "        value",
  "            .as_i64()",
  "            .and_then(|n| i32::try_from(n).ok())",
  "            .ok_or_else(|| unexpected(\"integer\", value))",
  "    \x7d",
  "",
  "    pub fn long(value: &Value) -> Result<i64, Error> \x7b",
  "        value.as_i64().ok_or_else(|| unexpected(\"long\", value))",
  "    \x7d",
  "",
  "    pub fn float(value: &Value) -> Result<f32, Error> \x7b",
  "        double(value).map(|n| n as f32)",
  "    \x7d",
  "",
  "    pub fn double(value: &Value) -> Result<f64, Error> \x7b",
  "        match value \x7b",
  "            Value::Number(n) => n.as_f64().ok_or_else(|| unexpected(\"number\", value)),",
  "            // Non-finite values are sent as strings",
  "            Value::String(s) => match s.as_str() \x7b",
  "                \"NaN\" => Ok(f64::NAN),",
  "                \"Infinity\" => Ok(f64::INFINITY),",
  "                \"-Infinity\" => Ok(f64::NEG_INFINITY),",
  "                _ => Err(unexpected(\"number\", value)),",
  "            \x7d,",
  "            _ => Err(unexpected(\"number\", value)),",
  "        \x7d",
  "    \x7d",
  "",
  "    pub fn boolean(value: &Value) -> Result<bool, Error> \x7b",
  "        value.as_bool().ok_or_else(|| unexpected(\"boolean\", value))",
  "    \x7d",
  "",
  "    pub fn timestamp(value: &Value, format: TimestampFormat) -> Result<DateTime<Utc>, Error> \x7b",
  "        match value \x7b",
  "            Value::Number(n) => n",
  "                .as_f64()",
  "                .ok_or_else(|| unexpected(\"timestamp\", value))",
  "                .and_then(timestamp_from_epoch),",
  "            Value::String(s) => parse_timestamp(s, format),",
  "            _ => Err(unexpected(\"timestamp\", value)),",
  "        \x7d",
  "    \x7d",
  "",
  "    pub fn blob(value: &Value) -> Result<Vec<u8>, Error> \x7b",
  "        value",
  "            .as_str()",
  "            .ok_or_else(|| unexpected(\"base64 string\", value))",
  "            .and_then(base64_decode)",
  "    \x7d",
  "",
  "    pub fn document(value: &Value) -> Result<Value, Error> \x7b",
  "        Ok(value.clone())",
  "    \x7d",
  "",
  "    /// JSON representation of a timestamp",
  "    pub fn timestamp_value(value: &DateTime<Utc>, format: TimestampFormat) -> Value \x7b",
  "        match format \x7b",
  "            TimestampFormat::UnixTimestamp if value.timestamp_subsec_millis() == 0 => \x7b",
  "                Value::from(value.timestamp())",
  "            \x7d",
  "            TimestampFormat::UnixTimestamp => \x7b",
  "                Value::from(value.timestamp_millis() as f64 / 1000.0)",
  "            \x7d",
  "            other => Value::String(format_timestamp(value, other)),",
  "        \x7d",
  "    \x7d",
  "",
  "    pub fn blob_value(value: &[u8]) -> Value \x7b",
  "        Value::String(base64_encode(value))",
  "    \x7d",
  "",
  "    pub fn to_bytes(value: &Value) -> Vec<u8> \x7b",
  "        value.to_string().into_bytes()",
  "    \x7d",
  "\x7d"]

/-- Values read from XML. -/
def xmlModule : List String := [
  "/// Reading XML documents",
  "pub mod xml \x7b",
  "    use super::\x7btext, Error, TimestampFormat\x7d;",
  "    use chrono::\x7bDateTime, Utc\x7d;",
  "    use roxmltree::\x7bDocument, Node\x7d;",
  "    use std::str::FromStr;",
  "",
  "    /// Parse a body; blank bodies yield `None`",
  "    pub fn parse(text: &str) -> Result<Option<Document<'_>>, Error> \x7b",
  "        if text.trim().is_empty() \x7b",
  "            return Ok(None);",
  "        \x7d",
  "        Document::parse(text)",
  "            .map(Some)",
  "            .map_err(|e| Error::InvalidResponse(format!(\"malformed XML body: \x7b\x7d\", e)))",
  "    \x7d",
  "",
  "    /// The result wrapper of a query response, or the root itself",
  "    pub fn unwrap_result<'a, 'input>(root: Node<'a, 'input>, wrapper: Option<&str>) -> Node<'a, 'input> \x7b",
  "        wrapper",
  "            .and_then(|name| child(root, name))",
  "            .unwrap_or(root)",
  "    \x7d",
  "",
  "    /// First child element with the given local name",
  "    pub fn child<'a, 'input>(node: Node<'a, 'input>, name: &str) -> Option<Node<'a, 'input>> \x7b",
  "        node.children()",
  "            .find(|c| c.is_element() && c.tag_name().name() == name)",
  "    \x7d",
  "",
  "    /// Every child element with the given local name",
  "    pub fn children<'a, 'input>(node: Node<'a, 'input>, name: &str) -> Vec<Node<'a, 'input>> \x7b",
  "        node.children()",
  "            .filter(|c| c.is_element() && c.tag_name().name() == name)",
  "            .collect()",
  "    \x7d",
  "",
  "    pub fn required_child<'a, 'input>(",
  "        node: Node<'a, 'input>,",
  "        name: &str,",
  "    ) -> Result<Node<'a, 'input>, Error> \x7b",
  "        child(node, name).ok_or_else(|| \x7b",
  "            Error::InvalidResponse(format!(",
  "                \"<\x7b\x7d> has no <\x7b\x7d> element\",",
  "                node.tag_name().name(),",
  "                name",
  "            ))",
  "        \x7d)",
  "    \x7d",
  "",
  "    /// Parse the repeated elements of a flattened collection; `None` when absent",
  "    pub fn flattened<'a, 'input, T, F>(",
  "        node: Node<'a, 'input>,",
  "        name: &str,",
  "        parse: F,",
  "    ) -> Result<Option<Vec<T>>, Error>",
  "    where",
  "        F: FnMut(Node<'a, 'input>) -> Result<T, Error>,",
  "    \x7b",
  "        let items = children(node, name);",
  "        if items.is_empty() \x7b",
  "            return Ok(None);",
  "        \x7d",
  "        items.into_iter().map(parse).collect::<Result<Vec<_>, _>>().map(Some)",
  "    \x7d",
  "",
  "    /// Key text and value node of a map entry",
  "    pub fn entry<'a, 'input>(",
  "        node: Node<'a, 'input>,",
  "        key: &str,",
  "        value: &str,",
  "    ) -> Result<(String, Node<'a, 'input>), Error> \x7b",
  "        let key = required_child(node, key).and_then(string)?;",
  "        let value = required_child(node, value)?;",
  "        Ok((key, value))",
  "    \x7d",
  "",
  "    /// Attribute value by name; a prefix such as `xsi:` is matched on the local part",
  "    pub fn attribute<'a>(node: Node<'a, '_>, name: &str) -> Option<&'a str> \x7b",
  "        let local = name.rsplit(':').next().unwrap_or(name);",
  "        node.attributes()",
  "            .find(|a| a.name() == local)",
  "            .map(|a| a.value())",
  "    \x7d",
  "",
  "    pub fn string(node: Node<'_, '_>) -> Result<String, Error> \x7b",
  "        Ok(node.text().unwrap_or_default().to_string())",
  "    \x7d",
  "",
  "    pub fn number<T: FromStr>(node: Node<'_, '_>) -> Result<T, Error> \x7b",
  "        text::number(node.text().unwrap_or_default())",
  "    \x7d",
  "",
  "    pub fn boolean(node: Node<'_, '_>) -> Result<bool, Error> \x7b",
  "        text::boolean(node.text().unwrap_or_default())",
  "    \x7d",
  "",
  "    pub fn timestamp(node: Node<'_, '_>, format: TimestampFormat) -> Result<DateTime<Utc>, Error> \x7b",
  "        text::timestamp(node.text().unwrap_or_default(), format)",
  "    \x7d",
  "",
  "    pub fn blob(node: Node<'_, '_>) -> Result<Vec<u8>, Error> \x7b",
  "        text::blob(node.text().unwrap_or_default())",
  "    \x7d",
  "\x7d"]

end Clientwright.Crate.Runtime

/-!
# Support code for values

What every generated crate holds to write values into messages, and to wait. The lines are those of
the file.
-/

namespace Clientwright.Crate.Runtime

/-- Required parameters and idempotency tokens. -/
def parameters : List String := [
  "/// Fail when a required member is not set",
  "pub fn required<T>(",
  "    value: &Option<T>,",
  "    shape: &'static str,",
  "    member: &'static str,",
  ") -> Result<(), Error> \x7b",
  "    match value \x7b",
  "        Some(_) => Ok(()),",
  "        None => Err(Error::MissingParameter \x7b shape, member \x7d),",
  "    \x7d",
  "\x7d",
  "",
  "/// A fresh idempotency token",
  "pub fn idempotency_token() -> String \x7b",
  "    uuid::Uuid::new_v4().to_string()",
  "\x7d"]

/-- Timestamps in their formats. -/
def timestamps : List String := [
  "/// Wire format of a timestamp",
  "#[derive(Debug, Clone, Copy, PartialEq, Eq)]",
  "pub enum TimestampFormat \x7b",
  "    Iso8601,",
  "    UnixTimestamp,",
  "    Rfc822,",
  "\x7d",
  "",
  "pub fn format_timestamp(value: &DateTime<Utc>, format: TimestampFormat) -> String \x7b",
  "    match format \x7b",
  "        TimestampFormat::Iso8601 => value.to_rfc3339_opts(SecondsFormat::AutoSi, true),",
  "        TimestampFormat::Rfc822 => value.format(\"%a, %d %b %Y %H:%M:%S GMT\").to_string(),",
  "        TimestampFormat::UnixTimestamp => \x7b",
  "            if value.timestamp_subsec_millis() == 0 \x7b",
  "                value.timestamp().to_string()",
  "            \x7d else \x7b",
  "                format!(\"\x7b:.3\x7d\", value.timestamp_millis() as f64 / 1000.0)",
  "            \x7d",
  "        \x7d",
  "    \x7d",
  "\x7d",
  "",
  "pub fn parse_timestamp(value: &str, format: TimestampFormat) -> Result<DateTime<Utc>, Error> \x7b",
  "    let value = value.trim();",
  "    let parsed = match format \x7b",
  "        TimestampFormat::Iso8601 => DateTime::parse_from_rfc3339(value)",
  "            .map(|t| t.with_timezone(&Utc))",
  "            .ok(),",
  "        TimestampFormat::Rfc822 => DateTime::parse_from_rfc2822(value)",
  "            .map(|t| t.with_timezone(&Utc))",
  "            .ok(),",
  "        TimestampFormat::UnixTimestamp => value",
  "            .parse::<f64>()",
  "            .ok()",
  "            .and_then(|seconds| timestamp_from_epoch(seconds).ok()),",
  "    \x7d;",
  "",
  "    // Services are not always consistent; fall back to the other formats",
  "    parsed",
  "        .or_else(|| DateTime::parse_from_rfc3339(value).ok().map(|t| t.with_timezone(&Utc)))",
  "        .or_else(|| DateTime::parse_from_rfc2822(value).ok().map(|t| t.with_timezone(&Utc)))",
  "        .ok_or_else(|| Error::InvalidResponse(format!(\"invalid timestamp '\x7b\x7d'\", value)))",
  "\x7d",
  "",
  "pub fn timestamp_from_epoch(seconds: f64) -> Result<DateTime<Utc>, Error> \x7b",
  "    let millis = (seconds * 1000.0).round() as i64;",
  "    Utc.timestamp_millis_opt(millis)",
  "        .single()",
  "        .ok_or_else(|| Error::InvalidResponse(format!(\"timestamp \x7b\x7d out of range\", seconds)))",
  "\x7d"]

/-- Binary values as text. -/
def binaries : List String := [
  "pub fn base64_encode(value: &[u8]) -> String \x7b",
  "    base64::engine::general_purpose::STANDARD.encode(value)",
  "\x7d",
  "",
  "pub fn base64_decode(value: &str) -> Result<Vec<u8>, Error> \x7b",
  "    base64::engine::general_purpose::STANDARD",
  "        .decode(value.trim())",
  "        .map_err(|e| Error::InvalidResponse(format!(\"invalid base64: \x7b\x7d\", e)))",
  "\x7d"]

/-- Paths, forms and their keys. -/
def urls : List String := [
  "/// Percent-encode a URI label; greedy labels keep their `/` separators",
  "pub fn uri_encode(value: &str, greedy: bool) -> String \x7b",
  "    let mut out = String::with_capacity(value.len());",
  "    for byte in value.bytes() \x7b",
  "        match byte \x7b",
  "            b'A'..=b'Z' | b'a'..=b'z' | b'0'..=b'9' | b'-' | b'_' | b'.' | b'~' => \x7b",
  "                out.push(byte as char)",
  "            \x7d",
  "            b'/' if greedy => out.push('/'),",
  "            _ => out.push_str(&format!(\"%\x7b:02X\x7d\", byte)),",
  "        \x7d",
  "    \x7d",
  "    out",
  "\x7d",
  "",
  "/// `application/x-www-form-urlencoded` body or query string",
  "pub fn form_encode(params: &[(String, String)]) -> String \x7b",
  "    params",
  "        .iter()",
  "        .map(|(key, value)| format!(\"\x7b\x7d=\x7b\x7d\", uri_encode(key, false), uri_encode(value, false)))",
  "        .collect::<Vec<_>>()",
  "        .join(\"&\")",
  "\x7d",
  "",
  "/// Join a query prefix and a member name with `.`",
  "pub fn query_key(prefix: &str, name: &str) -> String \x7b",
  "    if prefix.is_empty() \x7b",
  "        name.to_string()",
  "    \x7d else \x7b",
  "        format!(\"\x7b\x7d.\x7b\x7d\", prefix, name)",
  "    \x7d",
  "\x7d"]

/-- Elements and attributes as they are written. -/
def markup : List String := [
  "pub fn xml_escape(value: &str) -> String \x7b",
  "    let mut out = String::with_capacity(value.len());",
  "    for c in value.chars() \x7b",
  "        match c \x7b",
  "            '&' => out.push_str(\"&amp;\"),",
  "            '<' => out.push_str(\"&lt;\"),",
  "            '>' => out.push_str(\"&gt;\"),",
  "            '\"' => out.push_str(\"&quot;\"),",
  "            '\\'' => out.push_str(\"&apos;\"),",
  "            '\\r' => out.push_str(\"&#xD;\"),",
  "            _ => out.push(c),",
  "        \x7d",
  "    \x7d",
  "    out",
  "\x7d",
  "",
  "/// Append `<name>value</name>` with the value escaped",
  "pub fn xml_element(out: &mut String, name: &str, value: &str) \x7b",
  "    out.push('<');",
  "    out.push_str(name);",
  "    out.push('>');",
  "    out.push_str(&xml_escape(value));",
  "    out.push_str(\"</\");",
  "    out.push_str(name);",
  "    out.push('>');",
  "\x7d",
  "",
  "/// Append ` name=\"value\"` to an open tag",
  "pub fn xml_attribute(out: &mut String, name: &str, value: &str) \x7b",
  "    out.push(' ');",
  "    out.push_str(name);",
  "    out.push_str(\"=\\\"\");",
  "    out.push_str(&xml_escape(value));",
  "    out.push('\"');",
  "\x7d"]

/-- Waiting by polling. -/
def waiting : List String := [
  "/// Outcome of one waiter attempt",
  "#[derive(Debug, Clone, Copy, PartialEq, Eq)]",
  "pub enum WaiterState \x7b",
  "    Success,",
  "    Failure,",
  "    Retry,",
  "\x7d",
  "",
  "/// Poll until an attempt reaches a terminal state or the attempts run out",
  "pub fn wait<F>(",
  "    waiter: &'static str,",
  "    delay: Duration,",
  "    max_attempts: u32,",
  "    mut poll: F,",
  ") -> Result<(), Error>",
  "where",
  "    F: FnMut() -> Result<WaiterState, Error>,",
  "\x7b",
  "    for attempt in 1..=max_attempts \x7b",
  "        match poll()? \x7b",
  "            WaiterState::Success => return Ok(()),",
  "            WaiterState::Failure => return Err(Error::WaiterFailed \x7b waiter \x7d),",
  "            WaiterState::Retry if attempt < max_attempts => std::thread::sleep(delay),",
  "            WaiterState::Retry => \x7b\x7d",
  "        \x7d",
  "    \x7d",
  "",
  "    Err(Error::WaiterTimeout \x7b",
  "        waiter,",
  "        attempts: max_attempts,",
  "    \x7d)",
  "\x7d"]

end Clientwright.Crate.Runtime

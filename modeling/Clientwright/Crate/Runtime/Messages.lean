/-!
# Support code for messages

What every generated crate holds for the requests it sends, the responses it gets and the errors in
them. The lines are those of the file.
-/

namespace Clientwright.Crate.Runtime

/-- What the file is, and what it uses. -/
def header : List String := [
  "//! Runtime support shared by the generated client, inputs and outputs",
  "",
  "#![allow(dead_code)]",
  "",
  "use base64::Engine as _;",
  "use chrono::\x7bDateTime, SecondsFormat, TimeZone, Utc\x7d;",
  "use std::collections::BTreeMap;",
  "use std::time::Duration;"]

/-- The errors of a generated client. -/
def errorType : List String := [
  "/// Errors returned by the generated client",
  "#[derive(Debug, thiserror::Error)]",
  "pub enum Error \x7b",
  "    #[error(\"missing required member \x7bmember\x7d of \x7bshape\x7d\")]",
  "    MissingParameter \x7b",
  "        shape: &'static str,",
  "        member: &'static str,",
  "    \x7d,",
  "",
  "    #[error(\"invalid response: \x7b0\x7d\")]",
  "    InvalidResponse(String),",
  "",
  "    #[error(\"\x7bcode\x7d (HTTP \x7bstatus\x7d): \x7bmessage\x7d\")]",
  "    Api \x7b",
  "        status: u16,",
  "        code: String,",
  "        message: String,",
  "    \x7d,",
  "",
  "    #[error(\"transport error: \x7b0\x7d\")]",
  "    Transport(String),",
  "",
  "    #[error(\"waiter \x7bwaiter\x7d reached a failure state\")]",
  "    WaiterFailed \x7b waiter: &'static str \x7d,",
  "",
  "    #[error(\"waiter \x7bwaiter\x7d gave up after \x7battempts\x7d attempts\")]",
  "    WaiterTimeout \x7b waiter: &'static str, attempts: u32 \x7d,",
  "\x7d",
  "",
  "impl Error \x7b",
  "    /// Error code of an API error",
  "    pub fn code(&self) -> Option<&str> \x7b",
  "        match self \x7b",
  "            Error::Api \x7b code, .. \x7d => Some(code),",
  "            _ => None,",
  "        \x7d",
  "    \x7d",
  "",
  "    /// HTTP status of an API error",
  "    pub fn status(&self) -> Option<u16> \x7b",
  "        match self \x7b",
  "            Error::Api \x7b status, .. \x7d => Some(*status),",
  "            _ => None,",
  "        \x7d",
  "    \x7d",
  "\x7d"]

/-- Requests and the methods that put them together. -/
def requestType : List String := [
  "/// An HTTP request ready to be signed and sent",
  "#[derive(Debug, Clone, PartialEq, Eq, Default)]",
  "pub struct Request \x7b",
  "    pub method: String,",
  "    /// URI path, already percent-encoded",
  "    pub path: String,",
  "    pub query: Vec<(String, String)>,",
  "    pub headers: Vec<(String, String)>,",
  "    pub body: Vec<u8>,",
  "\x7d",
  "",
  "impl Request \x7b",
  "    pub fn new(method: &str, path: impl Into<String>) -> Self \x7b",
  "        Self \x7b",
  "            method: method.to_string(),",
  "            path: path.into(),",
  "            ..Self::default()",
  "        \x7d",
  "    \x7d",
  "",
  "    pub fn header(&mut self, name: impl Into<String>, value: impl Into<String>) \x7b",
  "        self.headers.push((name.into(), value.into()));",
  "    \x7d",
  "",
  "    pub fn query_param(&mut self, name: impl Into<String>, value: impl Into<String>) \x7b",
  "        self.query.push((name.into(), value.into()));",
  "    \x7d",
  "",
  "    /// Header value by case-insensitive name",
  "    pub fn header_value(&self, name: &str) -> Option<&str> \x7b",
  "        self.headers",
  "            .iter()",
  "            .find(|(key, _)| key.eq_ignore_ascii_case(name))",
  "            .map(|(_, value)| value.as_str())",
  "    \x7d",
  "",
  "    /// Path and encoded query string",
  "    pub fn uri(&self) -> String \x7b",
  "        if self.query.is_empty() \x7b",
  "            self.path.clone()",
  "        \x7d else \x7b",
  "            format!(\"\x7b\x7d?\x7b\x7d\", self.path, form_encode(&self.query))",
  "        \x7d",
  "    \x7d",
  "\x7d"]

/-- Responses and the methods that read from them. -/
def responseType : List String := [
  "/// An HTTP response as received from the service",
  "#[derive(Debug, Clone, PartialEq, Eq, Default)]",
  "pub struct Response \x7b",
  "    pub status: u16,",
  "    pub headers: Vec<(String, String)>,",
  "    pub body: Vec<u8>,",
  "\x7d",
  "",
  "impl Response \x7b",
  "    pub fn new(status: u16, body: impl Into<Vec<u8>>) -> Self \x7b",
  "        Self \x7b",
  "            status,",
  "            headers: Vec::new(),",
  "            body: body.into(),",
  "        \x7d",
  "    \x7d",
  "",
  "    pub fn with_header(mut self, name: impl Into<String>, value: impl Into<String>) -> Self \x7b",
  "        self.headers.push((name.into(), value.into()));",
  "        self",
  "    \x7d",
  "",
  "    pub fn is_success(&self) -> bool \x7b",
  "        (200..300).contains(&self.status)",
  "    \x7d",
  "",
  "    /// Header value by case-insensitive name",
  "    pub fn header(&self, name: &str) -> Option<&str> \x7b",
  "        self.headers",
  "            .iter()",
  "            .find(|(key, _)| key.eq_ignore_ascii_case(name))",
  "            .map(|(_, value)| value.as_str())",
  "    \x7d",
  "",
  "    /// Headers starting with `prefix`, keyed by the rest of their name",
  "    pub fn headers_with_prefix(&self, prefix: &str) -> BTreeMap<String, String> \x7b",
  "        self.headers",
  "            .iter()",
  "            .filter_map(|(key, value)| \x7b",
  "                let head = key.get(..prefix.len())?;",
  "                let rest = key.get(prefix.len()..)?;",
  "                head.eq_ignore_ascii_case(prefix)",
  "                    .then(|| (rest.to_string(), value.clone()))",
  "            \x7d)",
  "            .collect()",
  "    \x7d",
  "",
  "    pub fn text(&self) -> Result<String, Error> \x7b",
  "        String::from_utf8(self.body.clone())",
  "            .map_err(|e| Error::InvalidResponse(format!(\"body is not UTF-8: \x7b\x7d\", e)))",
  "    \x7d",
  "",
  "    /// Body as JSON; an empty body reads as an empty object",
  "    pub fn json(&self) -> Result<serde_json::Value, Error> \x7b",
  "        if self.body.iter().all(u8::is_ascii_whitespace) \x7b",
  "            return Ok(serde_json::Value::Object(serde_json::Map::new()));",
  "        \x7d",
  "        serde_json::from_slice(&self.body)",
  "            .map_err(|e| Error::InvalidResponse(format!(\"malformed JSON body: \x7b\x7d\", e)))",
  "    \x7d",
  "\x7d"]

/-- What sends requests, provided by the user of a client. -/
def transportType : List String := [
  "/// Sends requests to the service",
  "///",
  "/// Implementations resolve the endpoint, sign the request and perform the",
  "/// HTTP exchange.",
  "pub trait Transport \x7b",
  "    fn send(&self, request: Request) -> Result<Response, Error>;",
  "\x7d"]

/-- Errors that the service reports, in both formats. -/
def apiErrors : List String := [
  "/// Body format of error responses",
  "#[derive(Debug, Clone, Copy, PartialEq, Eq)]",
  "pub enum ErrorFormat \x7b",
  "    Json,",
  "    Xml,",
  "\x7d",
  "",
  "/// Build the error of a non-2xx response",
  "pub fn api_error(response: &Response, format: ErrorFormat) -> Error \x7b",
  "    let (code, message) = match format \x7b",
  "        ErrorFormat::Json => json_error(response),",
  "        ErrorFormat::Xml => xml_error(response),",
  "    \x7d;",
  "",
  "    Error::Api \x7b",
  "        status: response.status,",
  "        code: code.unwrap_or_else(|| response.status.to_string()),",
  "        message: message.unwrap_or_default(),",
  "    \x7d",
  "\x7d",
  "",
  "fn json_error(response: &Response) -> (Option<String>, Option<String>) \x7b",
  "    let body = response.json().unwrap_or(serde_json::Value::Null);",
  "    let text = |key: &str| body.get(key).and_then(|v| v.as_str()).map(str::to_string);",
  "",
  "    let code = response",
  "        .header(\"x-amzn-ErrorType\")",
  "        .map(str::to_string)",
  "        .or_else(|| text(\"__type\"))",
  "        .or_else(|| text(\"code\"))",
  "        .or_else(|| text(\"Code\"))",
  "        .map(|code| sanitize_error_code(&code));",
  "    let message = text(\"message\")",
  "        .or_else(|| text(\"Message\"))",
  "        .or_else(|| text(\"errorMessage\"));",
  "",
  "    (code, message)",
  "\x7d",
  "",
  "fn xml_error(response: &Response) -> (Option<String>, Option<String>) \x7b",
  "    let Ok(text) = response.text() else \x7b",
  "        return (None, None);",
  "    \x7d;",
  "    let Ok(document) = roxmltree::Document::parse(&text) else \x7b",
  "        return (None, None);",
  "    \x7d;",
  "",
  "    let find = |name: &str| \x7b",
  "        document",
  "            .descendants()",
  "            .find(|node| node.is_element() && node.tag_name().name() == name)",
  "            .and_then(|node| node.text())",
  "            .map(str::to_string)",
  "    \x7d;",
  "",
  "    (find(\"Code\"), find(\"Message\"))",
  "\x7d",
  "",
  "/// Strip the namespace (`aws.foo#Code`) and the suffix (`Code:http://…`) of an error type",
  "fn sanitize_error_code(code: &str) -> String \x7b",
  "    let code = code.split(':').next().unwrap_or(code);",
  "    code.rsplit('#').next().unwrap_or(code).to_string()",
  "\x7d"]

end Clientwright.Crate.Runtime

/-!
# Tests of the support code

The tests that every generated crate holds for its support code. The lines are those of the file.
-/

namespace Clientwright.Crate.Runtime

/-- The tests that come with the support code. -/
def tests : List String := [
  "#[cfg(test)]",
  "mod tests \x7b",
  "    use super::*;",
  "",
  "    #[test]",
  "    fn test_uri_encode() \x7b",
  "        assert_eq!(uri_encode(\"a b/c\", false), \"a%20b%2Fc\");",
  "        assert_eq!(uri_encode(\"photos/2024/a b.jpg\", true), \"photos/2024/a%20b.jpg\");",
  "    \x7d",
  "",
  "    #[test]",
  "    fn test_timestamps() \x7b",
  "        let time = parse_timestamp(\"2015-01-25T08:00:00Z\", TimestampFormat::Iso8601).unwrap();",
  "        assert_eq!(format_timestamp(&time, TimestampFormat::UnixTimestamp), \"1422172800\");",
  "        assert_eq!(",
  "            format_timestamp(&time, TimestampFormat::Rfc822),",
  "            \"Sun, 25 Jan 2015 08:00:00 GMT\"",
  "        );",
  "        assert_eq!(",
  "            parse_timestamp(\"Sun, 25 Jan 2015 08:00:00 GMT\", TimestampFormat::Rfc822).unwrap(),",
  "            time",
  "        );",
  "    \x7d",
  "",
  "    #[test]",
  "    fn test_api_error_from_json() \x7b",
  "        let response = Response::new(",
  "            400,",
  "            r#\"\x7b\"__type\":\"com.amazonaws.dynamodb.v20120810#ResourceNotFoundException\",\"message\":\"gone\"\x7d\"#,",
  "        );",
  "        let error = api_error(&response, ErrorFormat::Json);",
  "        assert_eq!(error.code(), Some(\"ResourceNotFoundException\"));",
  "        assert_eq!(error.status(), Some(400));",
  "    \x7d",
  "",
  "    #[test]",
  "    fn test_api_error_from_xml() \x7b",
  "        let response = Response::new(",
  "            400,",
  "            \"<ErrorResponse><Error><Code>QueueAlreadyExists</Code><Message>taken</Message></Error></ErrorResponse>\",",
  "        );",
  "        let error = api_error(&response, ErrorFormat::Xml);",
  "        assert_eq!(error.code(), Some(\"QueueAlreadyExists\"));",
  "",
  "        let empty = api_error(&Response::new(404, Vec::new()), ErrorFormat::Xml);",
  "        assert_eq!(empty.code(), Some(\"404\"));",
  "    \x7d",
  "",
  "    #[test]",
  "    fn test_headers_with_prefix() \x7b",
  "        let response = Response::new(200, Vec::new())",
  "            .with_header(\"X-Amz-Meta-Owner\", \"alice\")",
  "            .with_header(\"x-amz-meta-\", \"empty\")",
  "            .with_header(\"x-amz-metaé\", \"multibyte\")",
  "            .with_header(\"Content-Type\", \"text/plain\");",
  "",
  "        let meta = response.headers_with_prefix(\"x-amz-meta-\");",
  "        assert_eq!(meta.len(), 2);",
  "        assert_eq!(meta.get(\"Owner\").map(String::as_str), Some(\"alice\"));",
  "        assert_eq!(meta.get(\"\").map(String::as_str), Some(\"empty\"));",
  "    \x7d",
  "",
  "    #[test]",
  "    fn test_wait_gives_up() \x7b",
  "        let mut attempts = 0;",
  "        let result = wait(\"Test\", Duration::ZERO, 3, || \x7b",
  "            attempts += 1;",
  "            Ok(WaiterState::Retry)",
  "        \x7d);",
  "        assert!(matches!(result, Err(Error::WaiterTimeout \x7b attempts: 3, .. \x7d)));",
  "        assert_eq!(attempts, 3);",
  "    \x7d",
  "\x7d"]

end Clientwright.Crate.Runtime

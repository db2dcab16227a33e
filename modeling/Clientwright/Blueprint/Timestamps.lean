import Clientwright.Blueprint.Basic

/-!
# Formats of timestamps

The format that a member names wins over the one of its shape. Where neither names one, headers use
RFC 822, URI labels and query strings ISO 8601, and bodies what the protocol uses.
-/

namespace Clientwright

/-- The format that a location uses where nothing is said; a body leaves it to the protocol. -/
def Location.timestampFormat? : Location → Option TimestampFormat
  | .header | .headers => some .rfc822
  | .uri | .querystring => some .iso8601
  | .body | .statusCode => none

/-- The format that a shape names. -/
def ValueShape.timestampFormat? : ValueShape → Option TimestampFormat
  | .scalar _ s => s.timestampFormat
  | _ => none

namespace Blueprint

/-- The format of a timestamp in a body that belongs to no member, such as an item of a list. -/
def bodyFormat (b : Blueprint) (v : ValueShape) : TimestampFormat :=
  v.timestampFormat?.getD b.protocol.bodyTimestampFormat

/-- The format of a timestamp in a member. -/
def memberFormat (b : Blueprint) (m : Member) : TimestampFormat :=
  ((m.timestampFormat.or (b.value m.shape).timestampFormat?).or
    m.location.timestampFormat?).getD b.protocol.bodyTimestampFormat

end Blueprint

end Clientwright

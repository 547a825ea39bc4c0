import PatternKit.Text

/-!
Fixed fragments of pattern text for common formats of data.
-/

set_option autoImplicit false

namespace PatternKit

/-- A format of data with a ready-made pattern. -/
inductive CommonFormat where
  | email
  | url
  | phone
  | ipAddress
  | creditCard
  | hexColor
deriving DecidableEq, Repr

namespace CommonFormat

/-- The formats. -/
def all : List CommonFormat := [.email, .url, .phone, .ipAddress, .creditCard, .hexColor]

/-- The name of a format. -/
def name : CommonFormat → String
  | .email => "Email"
  | .url => "Url"
  | .phone => "Phone"
  | .ipAddress => "IpAddress"
  | .creditCard => "CreditCard"
  | .hexColor => "HexColor"

/-- The pattern text of a format. -/
def fragment : CommonFormat → Text
  | .email => "[a-zA-Z0-9._%+-]+@[a-zA-Z0-9.-]+\\.[a-zA-Z]\x7b2,\x7d".toList
  | .url =>
    ("https?://(?:[-\\w.])+(?:[:\\d]+)?(?:/(?:[\\w._~!$&'()*+,;=:@]|%[\\dA-Fa-f]\x7b2\x7d)*)*" ++
      "(?:\\?(?:[\\w._~!$&'()*+,;=:@/?]|%[\\dA-Fa-f]\x7b2\x7d)*)?" ++
      "(?:#(?:[\\w._~!$&'()*+,;=:@/?]|%[\\dA-Fa-f]\x7b2\x7d)*)?").toList
  | .phone => "\\(?\\d\x7b3\x7d\\)?[-.\\s]?\\d\x7b3\x7d[-.\\s]?\\d\x7b4\x7d".toList
  | .ipAddress =>
    ("(?:(?:25[0-5]|2[0-4][0-9]|[01]?[0-9][0-9]?)\\.)\x7b3\x7d" ++
      "(?:25[0-5]|2[0-4][0-9]|[01]?[0-9][0-9]?)").toList
  | .creditCard => "\\b(?:\\d\x7b4\x7d[- ]?)\x7b3\x7d\\d\x7b4\x7d\\b".toList
  | .hexColor => "#(?:[0-9a-fA-F]\x7b3\x7d)\x7b1,2\x7d\\b".toList

end CommonFormat

end PatternKit

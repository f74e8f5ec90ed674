import TraceRelay.Table
import TraceRelay.Value.Literal

/-!
# Reports

The written form of what went wrong: a category, a message, and details by name. A report with
details prints them behind the message in parentheses, each value as its literal.
-/

set_option autoImplicit false

namespace TraceRelay

/-- The categories of reports. -/
inductive Category
  | general
  | setting
  | header
  | missingSeparator
  | traceId
  | spanId
  deriving DecidableEq

namespace Category

/-- The name of a category in records. -/
def label : Category → String
  | .general => "CloudTraceError"
  | .setting => "ConfigError"
  | .header => "HeaderDecodeError"
  | .missingSeparator => "MissingSeparatorError"
  | .traceId => "InvalidTraceIdError"
  | .spanId => "InvalidSpanIdError"

/-- The category covers settings only. -/
def isSetting : Category → Bool
  | .setting => true
  | _ => false

/-- The category is that of undecodable headers or one of its three parts. -/
def isHeader : Category → Bool
  | .header | .missingSeparator | .traceId | .spanId => true
  | _ => false

end Category

/-- A message with named details. -/
structure Report where
  category : Category
  message : String
  details : Table String Value

namespace Report

/-- A report with one detail. -/
def single (category : Category) (message name : String) (value : Value) : Report :=
  ⟨category, message, Table.ofList [(name, value)]⟩

/-- The details in order, separated by commas. -/
def detailChars : List (String × Value) → List Char
  | [] => []
  | [(name, value)] => name.toList ++ '=' :: value.literal
  | (name, value) :: d :: ds =>
      name.toList ++ '=' :: value.literal ++ ',' :: ' ' :: detailChars (d :: ds)

/-- The text of a report. -/
def render (report : Report) : String :=
  if report.details.isEmpty then report.message
  else
    report.message ++
      String.ofList (' ' :: '(' :: detailChars report.details.entries ++ [')'])

end Report

end TraceRelay

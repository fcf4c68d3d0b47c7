/-!
# What can be wrong with a document

A configuration document may be ill formed as a whole, or hold a scalar whose tag promises more than
its text keeps. The causes are told apart because callers answer them differently.
-/

namespace ChannelSerde.Document

/-- **Why a document cannot be read.** -/
inductive Fault where
  /-- The text is no JSON document. -/
  | malformedJson
  /-- The text is no YAML document, or holds a node that has no value. -/
  | malformedYaml
  /-- A number, a date or a character that does not exist. -/
  | outOfRange
  /-- The number of a character that is too large for any count of characters. -/
  | overflow
  /-- A switch that is spelled with no known word. -/
  | unknownWord
  /-- A number without any text. -/
  | missingText
  /-- A moment that is not spelled as one. -/
  | unreadableMoment
  /-- A node that contains itself. -/
  | endless
  deriving DecidableEq, Repr

/-- The greatest number of decimal digits that an integer is read from. -/
def maxDigits : Nat := 4300

end ChannelSerde.Document

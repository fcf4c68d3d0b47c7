import ChannelSerde.Text.Quoted

/-!
# Rules for texts

Settings are checked by a validation library, and it has rules of its own for the texts that stand
for integers and for spans of time. They are given from outside (`TextRules`): whatever they say of a
text, the settings go by it.

What a rule does not take is refused with a cause, and the cause has a code and a message of its own.
The rule for spans may also fail in a way that is no refusal.
-/

namespace ChannelSerde.Settings

open Text

/-- **Why a value is refused.** -/
inductive Refusal where
  | notSwitch
  | unknownSwitchWord
  | notText
  | notVariables
  | notInteger
  | unreadableInteger
  | integerTooLong
  | fractional
  | notFinite
  | belowLeast
  | aboveGreatest
  | invalidDuration (text : String)
  | notNumber
  | notPositive
  | unknownField
  deriving DecidableEq, Repr

/-- The greatest port. -/
def maxPort : Nat := 65535

/-- The code of a cause. -/
def Refusal.code : Refusal → String
  | notSwitch => "bool_type"
  | unknownSwitchWord => "bool_parsing"
  | notText => "string_type"
  | notVariables => "dict_type"
  | notInteger => "int_type"
  | unreadableInteger => "int_parsing"
  | integerTooLong => "int_parsing_size"
  | fractional => "int_from_float"
  | notFinite => "finite_number"
  | belowLeast => "greater_than_equal"
  | aboveGreatest => "less_than_equal"
  | invalidDuration _ => "value_error"
  | notNumber => "float_type"
  | notPositive => "greater_than"
  | unknownField => "extra_forbidden"

/-- The message of a cause. -/
def Refusal.message : Refusal → String
  | notSwitch => "Input should be a valid boolean"
  | unknownSwitchWord => "Input should be a valid boolean, unable to interpret input"
  | notText => "Input should be a valid string"
  | notVariables => "Input should be a valid dictionary"
  | notInteger => "Input should be a valid integer"
  | unreadableInteger => "Input should be a valid integer, unable to parse string as an integer"
  | integerTooLong => "Unable to parse input string as an integer, exceeded maximum size"
  | fractional => "Input should be a valid integer, got a number with a fractional part"
  | notFinite => "Input should be a finite number"
  | belowLeast => "Input should be greater than or equal to 0"
  | aboveGreatest => "Input should be less than or equal to " ++ toString maxPort
  | invalidDuration text =>
    "Value error, Invalid duration " ++ quote text ++ "; use e.g. 60s, 500ms, 2m or PT1M"
  | notNumber => "Input should be a valid number"
  | notPositive => "Input should be greater than 0"
  | unknownField => "Extra inputs are not permitted"

/-- **What a rule makes of a text for a span of time.** -/
inductive SpanReading where
  /-- A number of seconds. -/
  | seconds (x : Float)
  /-- The text spells no span. -/
  | refused
  /-- The rule fails with an error of its own. -/
  | raised (error : String)

/-- **The rules of the validation library for texts.** -/
class TextRules where
  /-- The integer that a text spells. -/
  integer : String → Except Refusal Int
  /-- The span of time that a text spells. -/
  span : String → SpanReading

end ChannelSerde.Settings

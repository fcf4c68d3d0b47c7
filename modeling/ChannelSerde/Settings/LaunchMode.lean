import ChannelSerde.Text.Blank
import ChannelSerde.Text.LowerCase
import ChannelSerde.Text.Quoted

/-!
# Launch modes

A build runs for development, for a test or for production. Nothing said means development.
-/

namespace ChannelSerde

open Text

/-- **What a build runs for.** -/
inductive LaunchMode where
  | development
  | test
  | production
  deriving DecidableEq, Repr

namespace LaunchMode

/-- The word for a mode. -/
def word : LaunchMode → String
  | development => "development"
  | test => "test"
  | production => "production"

/-- The words of all modes, the short ones included. -/
def words : List (String × LaunchMode) :=
  [("dev", development), ("prod", production)]
    ++ [development, test, production].map fun m => (m.word, m)

/-- **The mode of a word** in any case, blanks around it left out; an unknown word is given back in
small letters. -/
def read (text : String) : Except String LaunchMode :=
  if text.isEmpty then .ok development
  else
    let word := toLowerCase (trim text)
    match words.find? fun w => w.1 == word with
    | some w => .ok w.2
    | none => .error word

/-- What is said of an unknown word. -/
def unknownWord (word : String) : String := quote word ++ " is not a valid LaunchMode"

end LaunchMode

end ChannelSerde

import ChannelSerde.Config.DottedKeys
import ChannelSerde.Text.Blank

/-!
# Property lines

A properties file holds one entry a line: a key, a separator, a value. Blanks around the line and
around the separator do not count, the separator is one equals sign or colon and may be missing, and
a line that is blank or starts with a hash or an exclamation mark holds no entry. A key has no blank
and no separator in it, so a line that starts with a separator holds no entry either. There are no
escapes and no continued lines.
-/

namespace ChannelSerde.Config

open Text

/-- The character may stand in a key. -/
def isKeyChar (c : Char) : Bool :=
  c != '=' && c != ':' && !isBlank c

/-- The rest of a line after at most one separator. -/
def dropSeparator : List Char → List Char
  | '=' :: rest => rest
  | ':' :: rest => rest
  | cs => cs

/-- The entry of a line that has no blanks around it. -/
def entryOfTrimmed (line : List Char) : Option (String × String) :=
  let key := line.takeWhile isKeyChar
  if key.isEmpty || line.head? == some '#' || line.head? == some '!' then none
  else
    let rest := dropSeparator ((line.dropWhile isKeyChar).dropWhile isBlank)
    some (String.ofList key, String.ofList (rest.dropWhile isBlank))

/-- **The entry of a line**, if it holds one. -/
def entryOfLine (line : List Char) : Option (String × String) :=
  entryOfTrimmed (trimChars line)

/-- **The properties a text holds**, a later value of a key in place of an earlier one. -/
def readProperties (text : String) : Properties :=
  OrderedMap.ofList ((lines text.toList).filterMap entryOfLine)

end ChannelSerde.Config

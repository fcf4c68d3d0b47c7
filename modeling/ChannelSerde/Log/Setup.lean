import ChannelSerde.Log.Record

/-!
# Where log records go

A logger has the level of its nearest ancestor that has one; the library's own logger and the root
are the only ones that can. A record that reaches the level is printed if the library's handler is
installed at the root. Installing it twice changes nothing but the level, and never makes the root
quieter than it was, so that other libraries stay as loud as they were.
-/

namespace ChannelSerde.Log

/-- **Where log records go.** A level of zero is none. -/
structure Setup where
  rootLevel : Nat
  libraryLevel : Nat
  /-- The library's handler is installed. -/
  installed : Bool
  /-- The number of handlers that others installed. -/
  others : Nat
  deriving DecidableEq, Repr

/-- The words for levels, all in capitals. -/
def levelWords : List (String × Nat) := [
  ("NOTSET", 0), ("DEBUG", 10), ("INFO", 20), ("WARNING", 30), ("WARN", 30), ("ERROR", 40),
  ("CRITICAL", 50), ("FATAL", 50)]

/-- The rank of a word in capitals. -/
def rankOfWord? (word : String) : Option Nat :=
  (levelWords.find? (·.1 == word)).map (·.2)

/-- The word for a rank. -/
def wordOfRank (rank : Nat) : String :=
  ((levelWords.find? (·.2 == rank)).map (·.1)).getD ""

/-- The capital of a letter, as far as it is ASCII: that of the dotless i is the plain one, and that
of the long s is the plain one too. -/
def asciiCapital (c : Char) : Char :=
  if c == 'ı' then 'I' else if c == 'ſ' then 'S' else c.toUpper

/-- **The rank of a word in any case**; an unknown word is the level for information. -/
def rankOf (word : String) : Nat :=
  (rankOfWord? (String.ofList (word.toList.map asciiCapital))).getD Level.info.rank

namespace Setup

/-- The setup of a program that has set up nothing but the library's level. -/
def plain : Setup :=
  { rootLevel := Level.warning.rank, libraryLevel := Level.debug.rank, installed := false
    others := 0 }

/-- **The library's handler is installed** and its level set. -/
def configure (s : Setup) (word : String) : Setup :=
  if s.installed then { s with libraryLevel := rankOf word }
  else
    { s with
      installed := true
      libraryLevel := rankOf word
      rootLevel := if s.rootLevel == 0 || Level.info.rank < s.rootLevel then Level.info.rank
        else s.rootLevel }

/-- The number of handlers at the root. -/
def handlers (s : Setup) : Nat := s.others + if s.installed then 1 else 0

/-- A logger of the library. -/
def isOfLibrary (logger : String) : Bool :=
  logger == libraryName || (libraryName ++ ".").toList.isPrefixOf logger.toList

/-- **The level of a logger.** -/
def levelOf (s : Setup) (logger : String) : Nat :=
  if isOfLibrary logger && s.libraryLevel != 0 then s.libraryLevel else s.rootLevel

/-- A record of a rank reaches its logger's level. -/
def enabled (s : Setup) (logger : String) (rank : Nat) : Bool :=
  s.levelOf logger ≤ rank

/-- A word with blanks behind it up to a width. -/
def paddedWord (width : Nat) (word : String) : String :=
  word ++ String.ofList (List.replicate (width - word.length) ' ')

/-- **A printed line**, without the time in front. -/
def line (rank : Nat) (logger build message : String) : String :=
  paddedWord 8 (wordOfRank rank) ++ " | " ++ logger ++ " | build=" ++ build ++ " | " ++ message

/-- **The lines printed for a record.** -/
def printed (s : Setup) (rank : Nat) (logger build message : String) : List String :=
  if s.installed && s.enabled logger rank then [line rank logger build message] else []

end Setup

end ChannelSerde.Log

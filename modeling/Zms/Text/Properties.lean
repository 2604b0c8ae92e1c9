import Mathlib

/-! `java.util.Properties.load` of a stream of bytes, as the JDK specifies it, and a printer
that escapes nothing. The bytes of the stream are taken for the characters of Latin-1. -/

set_option autoImplicit false

namespace Zms.Text.Properties

def isWhite (c : Char) : Bool := c = ' ' || c = '\t' || c = '\x0c'

def isTerminator (c : Char) : Bool := c = '\n' || c = '\r'

def isSeparator (c : Char) : Bool := c = '=' || c = ':'

/-- Where the reader of logical lines is: before a line, in a comment, in a line (after an
odd number of backslashes or not), or in the white space before a line that continues one. -/
inductive Mode where
  | start
  | comment
  | line (escaped : Bool)
  | continued (afterReturn : Bool)

/-- An empty logical line is none. -/
def emit (line : List Char) : List (List Char) := if line = [] then [] else [line.reverse]

/-- The logical lines; `line` is the one that is being read, reversed. -/
def logicalLines : Mode → List Char → List Char → List (List Char)
  | .line true, line, [] => [line.tail.reverse]
  | .line false, line, [] => emit line
  | .continued _, line, [] => emit line
  | .start, _, [] => []
  | .comment, _, [] => []
  | .start, _, c :: rest =>
      if isWhite c || isTerminator c then logicalLines .start [] rest
      else if c = '#' || c = '!' then logicalLines .comment [] rest
      else logicalLines (.line (c = '\\')) [c] rest
  | .comment, _, c :: rest =>
      if isTerminator c then logicalLines .start [] rest else logicalLines .comment [] rest
  | .line escaped, line, c :: rest =>
      if isTerminator c then
        if escaped then logicalLines (.continued (c = '\r')) line.tail rest
        else emit line ++ logicalLines .start [] rest
      else logicalLines (.line (c = '\\' && !escaped)) (c :: line) rest
  | .continued afterReturn, line, c :: rest =>
      if isWhite c || (afterReturn && c = '\n') then logicalLines (.continued false) line rest
      else if isTerminator c then emit line ++ logicalLines .start [] rest
      else logicalLines (.line (c = '\\')) (c :: line) rest

/-- The key, up to the first separator or white space that is not escaped, and what follows. -/
def splitKey : Bool → List Char → List Char × List Char
  | _, [] => ([], [])
  | escaped, c :: rest =>
      if (isSeparator c || isWhite c) && !escaped then ([], c :: rest)
      else
        let split := splitKey (c = '\\' && !escaped) rest
        (c :: split.1, split.2)

/-- What follows the key, without the separator and the white space around it. -/
def valueOf (rest : List Char) : List Char :=
  match rest.dropWhile isWhite with
  | [] => []
  | c :: more => if isSeparator c then more.dropWhile isWhite else c :: more

def hexDigit (c : Char) : Option Nat :=
  if '0' ≤ c ∧ c ≤ '9' then some (c.toNat - '0'.toNat)
  else if 'a' ≤ c ∧ c ≤ 'f' then some (c.toNat - 'a'.toNat + 10)
  else if 'A' ≤ c ∧ c ≤ 'F' then some (c.toNat - 'A'.toNat + 10)
  else none

def hexUnit (a b c d : Char) : Option Nat := do
  return (((← hexDigit a) * 16 + (← hexDigit b)) * 16 + (← hexDigit c)) * 16 + (← hexDigit d)

/-- The character that a backslash before `c` stands for. -/
def escaped (c : Char) : Char :=
  if c = 't' then '\t' else if c = 'n' then '\n' else if c = 'r' then '\r' else if c = 'f' then '\x0c' else c

/-- The UTF-16 units of a key or a value; `none` is the exception for a malformed `\u`. -/
def loadConvert : List Char → Option (List Nat)
  | [] => some []
  | '\\' :: 'u' :: a :: b :: c :: d :: rest => do
      let unit ← hexUnit a b c d
      return unit :: (← loadConvert rest)
  | '\\' :: 'u' :: _ => none
  | '\\' :: c :: rest => (loadConvert rest).map ((escaped c).toNat :: ·)
  | c :: rest => if c = '\\' then some [] else (loadConvert rest).map (c.toNat :: ·)

/-- A unit by itself. Half of a pair is no character; it stands as the replacement
character. -/
def unitChar (unit : Nat) : Char :=
  if unit < 0xD800 ∨ 0xDFFF < unit ∧ unit < 0x110000 then Char.ofNat unit else '\uFFFD'

/-- The characters of UTF-16 units. -/
def ofUnits : List Nat → List Char
  | high :: low :: rest =>
      if 0xD800 ≤ high ∧ high < 0xDC00 ∧ 0xDC00 ≤ low ∧ low < 0xE000 then
        Char.ofNat (0x10000 + (high - 0xD800) * 0x400 + (low - 0xDC00)) :: ofUnits rest
      else unitChar high :: ofUnits (low :: rest)
  | [unit] => [unitChar unit]
  | [] => []

def convert (text : List Char) : Option String := (loadConvert text).map fun units => String.ofList (ofUnits units)

/-- The key and the value of a logical line. -/
def entryOf (line : List Char) : Option (String × String) := do
  let split := splitKey false line
  return (← convert split.1, ← convert (valueOf split.2))

/-- All entries in the order of the lines. -/
def load (text : List Char) : Option (List (String × String)) := (logicalLines .start [] text).mapM entryOf

/-- `getProperty`: the last entry of a key counts. -/
def getProperty (entries : List (String × String)) (key : String) : Option String := entries.reverse.lookup key

/-- `getBytes` in UTF-8, the bytes as the characters of Latin-1. -/
def bytesOfChar (c : Char) : List Char := (String.utf8EncodeChar c).map fun byte => Char.ofNat byte.toNat

def bytesOf (text : String) : List Char := text.toList.flatMap bytesOfChar

/-- One line of an entry, nothing escaped. -/
def lineOf (entry : String × String) : List Char := bytesOf entry.1 ++ '=' :: bytesOf entry.2

/-- Lines with line feeds between them. -/
def print : List (String × String) → List Char
  | [] => []
  | [entry] => lineOf entry
  | entry :: rest => lineOf entry ++ '\n' :: print rest

def text : List (String × String) → String
  | [] => ""
  | [entry] => entry.1 ++ "=" ++ entry.2
  | entry :: rest => entry.1 ++ "=" ++ entry.2 ++ "\n" ++ text rest

end Zms.Text.Properties

import SqlRender.Text.AsciiCase
import SqlRender.Text.Hex

/-!
# Universally unique identifiers

Sixteen bytes, written as 32 hexadecimal digits in groups of 8, 4, 4, 4 and 12 with
hyphens between them.  A reader also takes the digits without hyphens, the hyphenated
form in braces, and the hyphenated form behind `urn:uuid:` in letters of either case.
-/

namespace SqlRender

/-- Sixteen bytes. -/
structure Uuid where
  bytes : List UInt8
  size_eq : bytes.length = 16
  deriving DecidableEq

namespace Uuid

/-- The identifier with the given bytes, if they are sixteen. -/
def ofBytes? (bytes : List UInt8) : Option Uuid :=
  if h : bytes.length = 16 then some ⟨bytes, h⟩ else none

/-- `digits` with hyphens between groups of 8, 4, 4, 4 and 12. -/
def hyphenated (digits : List Char) : List Char :=
  digits.take 8 ++ '-' :: (digits.drop 8).take 4 ++ '-' :: (digits.drop 12).take 4
    ++ '-' :: (digits.drop 16).take 4 ++ '-' :: digits.drop 20

/-- The text of an identifier. -/
def toText (u : Uuid) : String :=
  String.ofList (hyphenated (Hex.encode u.bytes))

/-- The digits of a hyphenated form, if the hyphens stand where they should. -/
def withoutHyphens? (cs : List Char) : Option (List Char) :=
  let digits := cs.filter (· ≠ '-')
  if digits.length = 32 ∧ hyphenated digits = cs then some digits else none

/-- The identifier that a text writes. -/
def ofText? (s : String) : Option Uuid :=
  let cs := s.toList
  let digits? :=
    if cs.length = 32 then some cs
    else if cs.length = 36 then withoutHyphens? cs
    else if cs.length = 38 then
      if cs.head? = some '{' ∧ cs.getLast? = some '}' then withoutHyphens? (cs.drop 1).dropLast
      else none
    else if cs.length = 45 ∧ Text.lower (String.ofList (cs.take 9)) = "urn:uuid:" then withoutHyphens? (cs.drop 9)
    else none
  (digits?.bind Hex.decode?).bind ofBytes?

end Uuid

end SqlRender

/-!
# UUIDs

A member id may be a UUID: thirty-two hexadecimal digits, alone or in five hyphenated parts, and the
hyphenated form also between braces or behind `urn:uuid:`.
-/

set_option autoImplicit false

namespace ClusterCoordination

structure Uuid where
  digits : List Char
  size : digits.length = 32

namespace Uuid

def isDigit (c : Char) : Bool :=
  ('0' ≤ c && c ≤ '9') || ('a' ≤ c && c ≤ 'f') || ('A' ≤ c && c ≤ 'F')

def ofDigits? (digits : List Char) : Option Uuid :=
  if digits.all isDigit then
    if size : (digits.map Char.toLower).length = 32 then some ⟨digits.map Char.toLower, size⟩
    else none
  else none

def ofHyphenated? (input : List Char) : Option Uuid :=
  let hyphens := [8, 13, 18, 23]
  if input.length = 36 ∧ hyphens.all (fun index => input[index]? == some '-') then
    ofDigits? ((input.zipIdx.filter fun (_, index) => !hyphens.contains index).map (·.1))
  else none

def urn : List Char := "urn:uuid:".toList

def ofText? (input : String) : Option Uuid :=
  let input := input.toList
  if input.length = 32 then ofDigits? input
  else if input.length = 38 ∧ input.head? = some '\x7b' ∧ input.getLast? = some '\x7d' then
    ofHyphenated? (input.drop 1).dropLast
  else if input.length = 45 ∧ input.take 9 = urn then ofHyphenated? (input.drop 9)
  else ofHyphenated? input

def text (uuid : Uuid) : String :=
  let part := fun start length => String.ofList ((uuid.digits.drop start).take length)
  String.intercalate "-" [part 0 8, part 8 4, part 12 4, part 16 4, part 20 12]

end Uuid

end ClusterCoordination

import FieldMap.Json.Token
import FieldMap.Text.Quoted

/-!
# Universally unique identifiers

A UUID is 128 bits. It is written as 32 hexadecimal digits in five groups, and read with or without
the hyphens between them and in any letter case.
-/

namespace FieldMap

/-- A universally unique identifier. -/
structure Uuid where
  bits : BitVec 128
  deriving DecidableEq

namespace Uuid

/-- The digits without the hyphens, which stand between all groups or between none. -/
def ungroup? (text : List Char) : Option (List Char) :=
  if text.length = 36 then
    if text[8]? = some '-' ∧ text[13]? = some '-' ∧ text[18]? = some '-' ∧ text[23]? = some '-' then
      some (text.take 8 ++ (text.drop 9).take 4 ++ (text.drop 14).take 4 ++ (text.drop 19).take 4 ++
        text.drop 24)
    else none
  else some text

/-- The identifier that a text stands for. -/
def ofText? (s : String) : Option Uuid := do
  let digits ← ungroup? s.toList
  guard (digits.length = 32)
  return ⟨BitVec.ofNat 128 (← Json.hexValue? digits)⟩

/-- Groups of eight, four, four, four and twelve digits with hyphens. -/
def display (u : Uuid) : String :=
  let digits := Text.hex 32 u.bits.toNat
  String.ofList (digits.take 8 ++ '-' :: (digits.drop 8).take 4 ++ '-' :: (digits.drop 12).take 4 ++
    '-' :: (digits.drop 16).take 4 ++ '-' :: digits.drop 20)

end Uuid

end FieldMap

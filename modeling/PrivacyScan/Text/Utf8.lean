/-!
Text from bytes, where bytes that are no part of a character are left out.
-/

namespace PrivacyScan.Text

def continuation? (byte : UInt8) : Option Nat :=
  if byte.toNat / 64 == 2 then some (byte.toNat % 64) else none

/-- The character that bytes start with, and how many of them it takes. A character has to be
written with as few bytes as it needs. -/
def firstChar? : List UInt8 → Option (Char × Nat)
  | [] => none
  | first :: rest =>
    let lead := first.toNat
    let build (start count least : Nat) : Option (Char × Nat) := do
      let parts ← (rest.take count).mapM continuation?
      let code := parts.foldl (fun code part => code * 64 + part) start
      if parts.length == count && least ≤ code && code.isValidChar then
        some (Char.ofNat code, count + 1)
      else none
    if lead < 128 then some (Char.ofNat lead, 1)
    else if 192 ≤ lead && lead < 224 then build (lead - 192) 1 128
    else if 224 ≤ lead && lead < 240 then build (lead - 224) 2 2048
    else if 240 ≤ lead && lead < 248 then build (lead - 240) 3 65536
    else none

/-- The characters of bytes; `skip` bytes belong to a character that is already taken. -/
def charsOf (skip : Nat) : List UInt8 → List Char
  | [] => []
  | byte :: rest =>
    match skip with
    | skip + 1 => charsOf skip rest
    | 0 =>
      match firstChar? (byte :: rest) with
      | some (c, size) => c :: charsOf (size - 1) rest
      | none => charsOf 0 rest

def ofBytes (bytes : List UInt8) : String := String.ofList (charsOf 0 bytes)

end PrivacyScan.Text

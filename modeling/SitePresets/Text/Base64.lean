/-!
# Base64

The length of what a text in the URL-safe base64 alphabet stands for. Bytes outside the alphabet are
skipped, and a padding sign ends the text once it completes a group of four.
-/

namespace SitePresets.Text.Base64

/-- Whether a byte stands for six bits, in either spelling of the last two signs. -/
def isSextet (b : UInt8) : Bool :=
  (65 ≤ b && b ≤ 90) || (97 ≤ b && b ≤ 122) || (48 ≤ b && b ≤ 57)
    || b = 43 || b = 47 || b = 45 || b = 95

/-- How far the reading is: bytes given out, place in the group of four, padding signs in a row. -/
structure Progress where
  bytes : Nat
  place : Nat
  pads : Nat

/-- Counts the bytes; `none` if the last group is incomplete. -/
def countFrom (progress : Progress) : List UInt8 → Option Nat
  | [] => if progress.place = 0 then some progress.bytes else none
  | b :: rest =>
    if b = 61 then
      if 2 ≤ progress.place ∧ 4 ≤ progress.place + progress.pads + 1 then some progress.bytes
      else countFrom { progress with pads := progress.pads + (if 2 ≤ progress.place then 1 else 0) } rest
    else if isSextet b then
      countFrom
        { bytes := progress.bytes + (if progress.place = 0 then 0 else 1)
          place := (progress.place + 1) % 4
          pads := 0 } rest
    else countFrom progress rest

/-- How many bytes the text stands for, if it is complete. -/
def decodedLength? (text : List UInt8) : Option Nat :=
  countFrom { bytes := 0, place := 0, pads := 0 } text

end SitePresets.Text.Base64

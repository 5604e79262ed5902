import MarkupSchema.Decimal.Shortest

/-!
# Positional notation

A number is always written out in full, with a point and at least one digit
on each side of it, and never with an exponent. The digits are the fewest
that read back.
-/

namespace MarkupSchema.Decimal

/-- A decimal written out around its point. -/
def Scaled.positional (d : Scaled) : List Char :=
  let ds := Nat.toDigits 10 d.coefficient
  match d.exponent with
  | .ofNat zeros => ds ++ List.replicate zeros '0' ++ ['.', '0']
  | .negSucc n =>
      let places := n + 1
      if places < ds.length then
        ds.take (ds.length - places) ++ '.' :: ds.drop (ds.length - places)
      else ['0', '.'] ++ List.replicate (places - ds.length) '0' ++ ds

/-- A double in positional notation. Zero keeps its sign. -/
def ofFloat (x : Float) : String :=
  let bits := x.toBits.toNat
  let sign := if bits / Nat.pow 2 63 = 1 then ['-'] else []
  let magnitude := bits % Nat.pow 2 63
  if magnitude = 0 then String.ofList (sign ++ ['0', '.', '0'])
  else if magnitude = 0x7FF0000000000000 then String.ofList (sign ++ ['i', 'n', 'f'])
  else if magnitude > 0x7FF0000000000000 then "NaN"
  else String.ofList (sign ++ (Binary.ofBits magnitude).shortest.positional)

end MarkupSchema.Decimal

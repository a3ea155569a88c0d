import ColumnBlocks.Text.Digit
import ColumnBlocks.Text.Ranges

/-
Numbers.  Underscores may stand between digits, a decimal number has no needless zero in front, and
a number has to fit: an integer into 128 bits, with a sign or without one, and a float into the
range of double precision.
-/
namespace ColumnBlocks
namespace Toml
namespace Number

/-- Digits without the underscores between them. -/
def joined? (isDigit : Char → Bool) (t : Text) : Option Text :=
  let groups := t.splitOn '_'
  if groups.all fun g => !g.isEmpty && g.all isDigit then some groups.flatten else none

/-- The decimal digits of a number without a needless zero in front. -/
def decimalDigits? (t : Text) : Option Text := do
  let ds ← joined? Char.isDigit t
  guard (ds.length == 1 || ds.head? != some '0')
  return ds

/-- Whether a number is negative, and the number without its sign. -/
def unsigned : Text → Bool × Text
  | '+' :: t => (false, t)
  | '-' :: t => (true, t)
  | t => (false, t)

def isOctal (c : Char) : Bool := '0' ≤ c && c ≤ '7'

def isBinary (c : Char) : Bool := c == '0' || c == '1'

/-- The number that digits of a base write. -/
def ofDigits (base : Nat) (ds : Text) : Nat :=
  ds.foldl (fun n c => n * base + (Text.hexValue? c).getD 0) 0

def integerOf? : Text → Option Int
  | '0' :: 'x' :: t =>
    (joined? (fun c => (Text.hexValue? c).isSome) t).map fun ds => ofDigits 16 ds
  | '0' :: 'o' :: t => (joined? isOctal t).map fun ds => ofDigits 8 ds
  | '0' :: 'b' :: t => (joined? isBinary t).map fun ds => ofDigits 2 ds
  | t =>
    let (negative, t) := unsigned t
    (decimalDigits? t).map fun ds =>
      if negative then -(ofDigits 10 ds : Int) else ofDigits 10 ds

def integer? (t : Text) : Option Int := do
  let n ← integerOf? t
  guard (-Int.pow 2 127 ≤ n && n < Int.pow 2 128)
  return n

/-- Whether `m * 10 ^ e` rounds to a number of double precision that is not infinite.  The bound
lies half a step beyond the largest of them. -/
def isFinite (m : Nat) (e : Int) : Bool :=
  let bound := Nat.pow 2 1024 - Nat.pow 2 970
  let magnitude : Int := (Text.ofNat m).length + e
  if m = 0 || magnitude < 300 then true
  else if 320 < magnitude then false
  else if e < 0 then m < bound * Nat.pow 10 e.natAbs else m * Nat.pow 10 e.natAbs < bound

/-- The value of an exponent, from after its letter. -/
def exponent? (t : Text) : Option Int := do
  let (negative, t) := unsigned t
  let n := ofDigits 10 (← joined? Char.isDigit t)
  return if negative then -(n : Int) else n

def isExponentMark (c : Char) : Bool := c == 'e' || c == 'E'

/-- Whether a text is a number with a fraction or an exponent, or infinite, or not a number. -/
def isFloat (t : Text) : Bool :=
  let (_, t) := unsigned t
  if t == "inf".toList || t == "nan".toList then true
  else
    let mantissa := t.takeWhile (!isExponentMark ·)
    let whole := mantissa.takeWhile (· != '.')
    let finite? := do
      let ws ← decimalDigits? whole
      let fs ← match mantissa.drop whole.length with
        | [] => some []
        | _ :: fraction => joined? Char.isDigit fraction
      let e ← match t.drop mantissa.length with
        | [] => some 0
        | _ :: e => exponent? e
      guard (mantissa.length != whole.length || t.length != mantissa.length)
      return isFinite (ofDigits 10 (ws ++ fs)) (e - fs.length)
    finite?.getD false

end Number
end Toml
end ColumnBlocks

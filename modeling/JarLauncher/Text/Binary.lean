import JarLauncher.Text.Floating

/-! Numbers as they stand in octets in binary floating point, and the shortest decimal notation that
reads back as the same number. -/

namespace JarLauncher.Text

/-- how a number is laid out in bits: a sign, an exponent and a fraction -/
structure Binary where
  /-- how many octets it takes, of which the last may be blank -/
  size : Nat
  exponentBits : Nat
  fractionBits : Nat
  /-- the first digit of a fraction is written, and not understood -/
  isExplicit : Bool
  /-- how many decimal digits are kept in any case, and how many tell all numbers apart -/
  kept : Nat
  telling : Nat

namespace Binary

def single : Binary := ⟨4, 8, 23, false, 6, 9⟩

def double : Binary := ⟨8, 11, 52, false, 15, 17⟩

def extended : Binary := ⟨16, 15, 64, true, 18, 21⟩

/-- how wide a number can become -/
def width (b : Binary) : Nat := b.telling + 2 + (if b.exponentBits ≤ 8 then 4 else if
  b.exponentBits ≤ 11 then 5 else 6)

/-- the digits after the first one -/
def behind (b : Binary) : Nat := if b.isExplicit then b.fractionBits - 1 else b.fractionBits

/-- the least exponent of a mantissa -/
def least (b : Binary) : Int := 2 - (Nat.pow 2 (b.exponentBits - 1) : Nat) - b.behind

/-- the number with these bits -/
def decode (b : Binary) (bits : Nat) : Floating :=
  let fraction := bits % Nat.pow 2 b.fractionBits
  let exponent := bits / Nat.pow 2 b.fractionBits % Nat.pow 2 b.exponentBits
  let negative := bits / Nat.pow 2 (b.fractionBits + b.exponentBits) % 2 = 1
  let unit := Nat.pow 2 b.behind
  let magnitude : Magnitude :=
    if exponent + 1 = Nat.pow 2 b.exponentBits then
      if fraction % unit = 0 then .infinite else .notANumber
    else if exponent = 0 then .finite fraction b.least
    else .finite (if b.isExplicit then fraction else fraction + unit) (b.least + exponent - 1)
  ⟨negative, magnitude⟩

/-- a decimal number, digits and an exponent of ten, is nearest to a mantissa with its exponent -/
def isNearest (b : Binary) (mantissa : Nat) (exponent : Int) (digits : Nat) (ten : Int) : Bool :=
  let (dn, dd) := Floating.powered digits 10 ten
  let above (n : Nat) (e : Int) : Bool :=
    let (n, d) := Floating.scaled n e
    dn * d < n * dd || (mantissa % 2 = 0 && dn * d = n * dd)
  let below (n : Nat) (e : Int) : Bool :=
    let (n, d) := Floating.scaled n e
    n * dd < dn * d || (mantissa % 2 = 0 && dn * d = n * dd)
  let isClose : Bool := mantissa = Nat.pow 2 b.behind && b.least < exponent
  above (2 * mantissa + 1) (exponent - 1) &&
    if isClose then below (4 * mantissa - 1) (exponent - 2)
    else below (2 * mantissa - 1) (exponent - 1)

/-- with as few digits as read back, from so many on -/
def shortestFrom (b : Binary) (mantissa : Nat) (exponent : Int) : Nat → Nat → Bytes
  | 0, places => Floating.write (.finite mantissa exponent) 'g' (some places) false
  | fuel + 1, places =>
    let (n, d) := Floating.scaled mantissa exponent
    let (ds, e) := Floating.significant n d (places - 1)
    let value := ds.foldl (fun n d => n * 10 + (d.toNat - 48)) 0
    if b.isNearest mantissa exponent value (e - (places - 1)) then
      Floating.write (.finite mantissa exponent) 'g' (some places) false
    else shortestFrom b mantissa exponent fuel (places + 1)

/-- the shortest notation of a number with these bits -/
def shortest (b : Binary) (bits : Nat) : Bytes :=
  let x := b.decode bits
  let sign : Bytes := if x.negative then [45] else []
  sign ++ match x.magnitude with
    | .finite mantissa exponent =>
      if mantissa = 0 then [48]
      else
        let first := if mantissa < Nat.pow 2 b.behind then 1 else b.kept
        b.shortestFrom mantissa exponent (b.telling - first) first
    | m => Floating.write m 'g' none false

end Binary
end JarLauncher.Text

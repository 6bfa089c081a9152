namespace SpinLocks.Text

/-- The natural number nearest to a quotient, of two the even one. -/
def roundDiv (num den : Nat) : Nat :=
  let quotient := num / den
  let rest := num % den
  if den < 2 * rest ∨ den = 2 * rest ∧ quotient % 2 = 1 then quotient + 1 else quotient

def fixed (num den places : Nat) : String :=
  let unit := Nat.pow 10 places
  let scaled := if den = 0 then 0 else roundDiv (num * unit) den
  let decimals := toString (scaled % unit)
  toString (scaled / unit) ++ "."
    ++ "".pushn '0' (places - decimals.length) ++ decimals

end SpinLocks.Text

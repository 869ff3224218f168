import Mvr.CInt.Basic

/-!
# `to_String`

`player.cpp` and `vif_element.cpp` each have a copy of the same function `to_String`; `decimalText`
is its body.  The first loop writes the digits of the absolute value from the lowest up, the second
copies them behind the sign in reverse.  The text of 0 has no digit: it is empty.
-/

namespace Mvr

/-- `while (m > 0) { s[i++] = m % 10 + '0'; m /= 10; }`: the digits written, the lowest first. -/
def digitLoop (m : Int32) : List Char :=
  if _h : 0 < m.toInt then
    Char.ofNat ((m % 10).toInt.toNat + 48) :: digitLoop (m / 10)
  else
    []
termination_by m.toInt.toNat
decreasing_by
  rw [Int32.toInt_div_of_ne_right _ _ (by decide), Int.tdiv_eq_ediv_of_nonneg (by omega),
    show Int32.toInt 10 = 10 from rfl]
  omega

/-- The body of `to_String`. -/
def decimalText (n : Int32) : String :=
  let m := if n < 0 then 0 - n else n
  let sign := if n < 0 then ['-'] else []
  String.ofList (sign ++ (digitLoop m).reverse)

/-- `to_String` of `player.cpp`. -/
def Player.toString (n : Int32) : String := decimalText n

/-- `to_String` of `vif_element.cpp`. -/
def Vif.toString (n : Int32) : String := decimalText n

end Mvr

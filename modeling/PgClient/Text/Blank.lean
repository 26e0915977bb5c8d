/-
White space as a property of characters, and texts without it at their end.
-/

namespace PgClient.Blank

/-- The property White_Space. -/
def isBlank (char : Char) : Bool :=
  let point := char.toNat
  (9 ≤ point && point ≤ 13) || point == 0x20 || point == 0x85 || point == 0xA0 ||
    point == 0x1680 || (0x2000 ≤ point && point ≤ 0x200A) || point == 0x2028 ||
    point == 0x2029 || point == 0x202F || point == 0x205F || point == 0x3000

def trimEnd (text : List Char) : List Char :=
  (text.reverse.dropWhile isBlank).reverse

theorem trimEnd_append_visible (text : List Char) {char : Char} (visible : isBlank char = false) :
    trimEnd (text ++ [char]) = text ++ [char] := by
  simp [trimEnd, visible]

end PgClient.Blank

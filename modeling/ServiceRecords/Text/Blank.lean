set_option autoImplicit false

/-!
Blank characters and trimming. A character is blank when it has the Unicode property
`White_Space`; `trim` removes the blanks at both ends of a text and nothing else.
-/

namespace ServiceRecords.Text

/-- The code points with the property `White_Space`, as closed ranges in order. -/
def blankRanges : List (Nat × Nat) :=
  [(0x0009, 0x000D), (0x0020, 0x0020), (0x0085, 0x0085), (0x00A0, 0x00A0),
   (0x1680, 0x1680), (0x2000, 0x200A), (0x2028, 0x2029), (0x202F, 0x202F),
   (0x205F, 0x205F), (0x3000, 0x3000)]

def isBlank (c : Char) : Bool :=
  blankRanges.any fun (low, high) => low ≤ c.toNat && c.toNat ≤ high

/-- The list without the longest run at its end whose members all satisfy `drop`. -/
def dropEnd (drop : Char → Bool) (cs : List Char) : List Char :=
  (cs.reverse.dropWhile drop).reverse

/-- The list without the runs at both ends whose members all satisfy `drop`. -/
def dropEnds (drop : Char → Bool) (cs : List Char) : List Char :=
  dropEnd drop (cs.dropWhile drop)

def trim (text : String) : String :=
  .ofList (dropEnds isBlank text.toList)

@[simp] theorem toList_trim (text : String) :
    (trim text).toList = dropEnds isBlank text.toList :=
  String.toList_ofList

@[simp] theorem dropEnd_nil (drop : Char → Bool) : dropEnd drop [] = [] := rfl

theorem dropEnd_concat (drop : Char → Bool) (cs : List Char) (c : Char) :
    dropEnd drop (cs ++ [c]) = if drop c then dropEnd drop cs else cs ++ [c] := by
  unfold dropEnd
  rw [List.reverse_append, List.reverse_singleton, List.singleton_append, List.dropWhile_cons]
  split <;> simp

end ServiceRecords.Text

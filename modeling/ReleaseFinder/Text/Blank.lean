/-!
# Blank characters

The white space of Unicode, trimming, and the split of a text into the pieces that lie between
separators. `pieces` returns no empty piece, and its pieces joined are the text without its
separators.
-/

namespace ReleaseFinder.Text

/-- The Unicode property White_Space. -/
def isBlank (c : Char) : Bool :=
  let point := c.toNat
  (0x09 ≤ point && point ≤ 0x0D) || point == 0x20 || point == 0x85 || point == 0xA0 ||
    point == 0x1680 || (0x2000 ≤ point && point ≤ 0x200A) || point == 0x2028 ||
    point == 0x2029 || point == 0x202F || point == 0x205F || point == 0x3000

/-- The text without the blanks at either end. -/
def trimChars (text : List Char) : List Char :=
  ((text.dropWhile isBlank).reverse.dropWhile isBlank).reverse

/-- The text without the blanks at either end. -/
def trim (text : String) : String :=
  String.ofList (trimChars text.toList)

/-- A text of nothing but blanks. -/
def blankText (text : String) : Bool :=
  text.toList.all isBlank

/-- The first piece with a character put before it. -/
def extendFirst (c : Char) : List (List Char) → List (List Char)
  | [] => [[c]]
  | piece :: others => (c :: piece) :: others

/-- The maximal runs of characters that are no separators, in order. -/
def pieces (separates : Char → Bool) : List Char → List (List Char)
  | [] => []
  | c :: rest =>
    if separates c then pieces separates rest
    else
      match rest with
      | [] => [[c]]
      | next :: _ =>
        if separates next then [c] :: pieces separates rest
        else extendFirst c (pieces separates rest)

/-- The first piece gets the character, and nothing else changes. -/
theorem flatten_extendFirst (c : Char) (found : List (List Char)) :
    (extendFirst c found).flatten = c :: found.flatten := by
  cases found <;> simp [extendFirst]

/-- Extending the first piece leaves no empty piece. -/
theorem ne_nil_of_mem_extendFirst {c : Char} {found : List (List Char)}
    (inhabited : ∀ piece ∈ found, piece ≠ []) :
    ∀ piece ∈ extendFirst c found, piece ≠ [] := by
  cases found with
  | nil => simp [extendFirst]
  | cons piece others =>
    intro candidate member
    rcases List.mem_cons.1 member with rfl | member
    · simp
    · exact inhabited candidate (List.mem_cons_of_mem _ member)

/-- No piece is empty. -/
theorem ne_nil_of_mem_pieces (separates : Char → Bool) (text : List Char) :
    ∀ piece ∈ pieces separates text, piece ≠ [] := by
  fun_induction pieces separates text with
  | case1 => simp
  | case2 c rest separated inductionHypothesis => exact inductionHypothesis
  | case3 c separated => simp
  | case4 c separated next tail nextSeparates inductionHypothesis =>
    simpa using inductionHypothesis
  | case5 c separated next tail nextSeparates inductionHypothesis =>
    exact ne_nil_of_mem_extendFirst inductionHypothesis

/-- The pieces joined are the text without its separators. -/
theorem flatten_pieces (separates : Char → Bool) (text : List Char) :
    (pieces separates text).flatten = text.filter (fun c => !separates c) := by
  fun_induction pieces separates text with
  | case1 => rfl
  | case2 c rest separated inductionHypothesis => simp [separated, inductionHypothesis]
  | case3 c separated => simp [separated]
  | case4 c separated next tail nextSeparates inductionHypothesis =>
    simp [separated, inductionHypothesis]
  | case5 c separated next tail nextSeparates inductionHypothesis =>
    rw [flatten_extendFirst, inductionHypothesis]
    simp [separated, nextSeparates]

end ReleaseFinder.Text

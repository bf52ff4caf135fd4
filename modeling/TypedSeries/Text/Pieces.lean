/-!
# Pieces of a text

**Main.** `intercalate_pieces`: the pieces with the separator put back between them are the text.
-/

namespace TypedSeries

/-- The pieces of a text between separators; a text without one is its own only piece. -/
def pieces (separator : Char) : List Char → List (List Char)
  | [] => [[]]
  | c :: cs =>
    if c = separator then [] :: pieces separator cs
    else match pieces separator cs with
      | [] => [[c]]
      | p :: ps => (c :: p) :: ps

theorem pieces_ne_nil (separator : Char) (cs : List Char) : pieces separator cs ≠ [] := by
  cases cs with
  | nil => simp [pieces]
  | cons c cs =>
    rw [pieces]
    split
    · simp
    · split <;> simp

theorem intercalate_pieces (separator : Char) (cs : List Char) :
    [separator].intercalate (pieces separator cs) = cs := by
  induction cs with
  | nil => simp [pieces, List.intercalate]
  | cons c cs ih =>
    have hne := pieces_ne_nil separator cs
    match h : pieces separator cs with
    | [] => exact absurd h hne
    | p :: ps =>
      rw [h] at ih
      by_cases hc : c = separator
      · cases hc
        simp only [pieces, if_true, h]
        rw [← ih]; cases ps <;> simp [List.intercalate, List.intersperse]
      · simp only [pieces, if_neg hc, h]
        rw [← ih]; cases ps <;> simp [List.intercalate, List.intersperse]

/-- What stands before the first separator and, if there is one, what follows it. -/
def cut (separator : Char) (cs : List Char) : List Char × Option (List Char) :=
  match cs.dropWhile (· ≠ separator) with
  | [] => (cs, none)
  | _ :: rest => (cs.takeWhile (· ≠ separator), some rest)

end TypedSeries

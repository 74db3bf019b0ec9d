namespace CockpitHud.Text

/-- The pieces between the separators, the empty ones included. -/
def pieces (separator : Char) : List Char → List (List Char)
  | [] => [[]]
  | c :: rest =>
    if c = separator then [] :: pieces separator rest
    else (c :: (pieces separator rest).headD []) :: (pieces separator rest).tail

def join (separator : Char) : List (List Char) → List Char
  | [] => []
  | [piece] => piece
  | piece :: rest => piece ++ separator :: join separator rest

/-- The lines of a text. A line feed at the end starts one more, empty line. -/
def lines (text : List Char) : List (List Char) :=
  pieces '\n' text

theorem pieces_ne_nil (separator : Char) (text : List Char) : pieces separator text ≠ [] := by
  cases text with
  | nil => simp [pieces]
  | cons c rest => simp only [pieces]; split <;> simp

theorem join_cons_cons (separator c : Char) (piece : List Char) (rest : List (List Char)) :
    join separator ((c :: piece) :: rest) = c :: join separator (piece :: rest) := by
  cases rest <;> simp [join]

theorem join_pieces (separator : Char) (text : List Char) :
    join separator (pieces separator text) = text := by
  induction text with
  | nil => rfl
  | cons c rest ih =>
    cases h : pieces separator rest with
    | nil => exact absurd h (pieces_ne_nil separator rest)
    | cons piece others =>
      rw [h] at ih
      simp only [pieces, h]
      split
      · rename_i hc; simp [join, ih, hc]
      · simp [join_cons_cons, ih]

end CockpitHud.Text

import CockpitHud.Text.Blank

namespace CockpitHud.Layout

def lastSpace? : List Char → Option Nat
  | [] => none
  | c :: rest =>
    match lastSpace? rest with
    | some i => some (i + 1)
    | none => if c = ' ' then some 0 else none

/-- Where a text longer than `max` is cut: at the last space that leaves no more than a line before
it, or after a full line. A space at the very front is no place to cut. -/
def cut (max : Nat) (text : List Char) : Nat :=
  match lastSpace? (text.take (max + 1)) with
  | some (i + 1) => i + 1
  | _ => max

theorem cut_pos {max : Nat} (positive : 0 < max) (text : List Char) : 0 < cut max text := by
  unfold cut
  split <;> omega

/-- The lines of a text, none longer than `max`. Blanks at a cut are dropped. -/
def wrap (max : Nat) (positive : 0 < max) (text : List Char) : List (List Char) :=
  if text.length ≤ max then
    if text = [] then [] else [text]
  else
    Text.trimEnd (text.take (cut max text)) ::
      wrap max positive (Text.trimStart (text.drop (cut max text)))
termination_by text.length
decreasing_by
  have hcut := cut_pos positive text
  have htrim := Text.trimStart_length_le (text.drop (cut max text))
  have hdrop : (text.drop (cut max text)).length = text.length - cut max text := by simp
  omega

end CockpitHud.Layout

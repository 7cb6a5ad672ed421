/-!
# Parts of a text
-/

namespace LightSync.Text

/-- The parts of a text between the characters that separate them; there is at least one part. -/
def parts (separates : Char → Bool) : List Char → List (List Char)
  | [] => [[]]
  | c :: rest =>
    match separates c, parts separates rest with
    | true, parts => [] :: parts
    | false, part :: parts => (c :: part) :: parts
    | false, [] => [[c]]

end LightSync.Text

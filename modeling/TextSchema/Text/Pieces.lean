/-!
# Pieces between separators

A text cut at the occurrences of a separator, from left to right and without
overlap. There is one piece more than there are occurrences. The empty separator
occurs before and after every character.
-/

set_option autoImplicit false

namespace TextSchema.Text

def consFirst (char : Char) : List (List Char) → List (List Char)
  | [] => [[char]]
  | piece :: pieces => (char :: piece) :: pieces

def piecesFrom (separator : List Char) : Nat → List Char → List (List Char)
  | _, [] => [[]]
  | skip + 1, _ :: rest => piecesFrom separator skip rest
  | 0, char :: rest =>
      if separator.isPrefixOf (char :: rest) then
        [] :: piecesFrom separator (separator.length - 1) rest
      else
        consFirst char (piecesFrom separator 0 rest)

def pieces (separator text : List Char) : List (List Char) :=
  match separator with
  | [] => [] :: text.map (fun char => [char]) ++ [[]]
  | _ => piecesFrom separator 0 text

end TextSchema.Text

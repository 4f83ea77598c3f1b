namespace OutboxRelay

/-- The parts of a text between marks; there is one more of them than marks. -/
def splitOn (mark : Char) : List Char → List (List Char)
  | [] => [[]]
  | c :: rest =>
    if c = mark then [] :: splitOn mark rest
    else
      match splitOn mark rest with
      | part :: parts => (c :: part) :: parts
      | [] => [[c]]

def joinWith (mark : List Char) : List (List Char) → List Char
  | [] => []
  | [part] => part
  | part :: parts => part ++ mark ++ joinWith mark parts

end OutboxRelay

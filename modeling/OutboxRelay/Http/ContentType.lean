namespace OutboxRelay.ContentType

/-- Characters of names and unquoted values. -/
def isToken (c : Char) : Bool :=
  c.isAlphanum || "!#$%&*+-.^_|~".toList.contains c || c == '\'' || c == Char.ofNat 0x60

def isQuoted (c : Char) : Bool :=
  0x20 ≤ c.toNat && c.toNat < 0x7F

/-- A quoted value up to its closing quote. A quote directly after the opening one belongs to the
value. -/
def readQuoted? (cs : List Char) : Option (List Char × List Char) :=
  let opening := if cs.head? = some '"' then ['"'] else []
  let rest := cs.drop opening.length
  let isInside (c : Char) : Bool := isQuoted c && c != '"'
  match rest.dropWhile isInside with
  | '"' :: after => some (opening ++ rest.takeWhile isInside, after)
  | _ => none

/-- A value in quotes or without, and what follows the semicolon after it. -/
def readValue? (cs : List Char) : Option (List Char × List Char) :=
  match cs with
  | '"' :: rest =>
    match readQuoted? rest with
    | some (value, after) =>
      match after.dropWhile (· = ' ') with
      | [] => some (value, [])
      | ';' :: next => some (value, next)
      | _ => none
    | none => none
  | _ =>
    match cs.takeWhile isToken, cs.dropWhile isToken with
    | value, [] => some (value, [])
    | value, ';' :: next => if value.isEmpty then none else some (value, next)
    | _, _ => none

/-- The parameters after the first semicolon, names in lower case. Each takes two characters at
least, so the length of the text is enough fuel. -/
def readParameters? : Nat → List Char → Option (List (List Char × List Char))
  | 0, cs => if cs.isEmpty then some [] else none
  | fuel + 1, cs =>
    match cs.dropWhile (· = ' ') with
    | [] => some []
    | start =>
      match start.takeWhile isToken, start.dropWhile isToken with
      | _ :: _, '=' :: rest =>
        match readValue? rest with
        | some (value, next) =>
          (readParameters? fuel next).map fun more =>
            ((start.takeWhile isToken).map Char.toLower, value) :: more
        | none => none
      | _, _ => none

/-- The parameters of a content type such as `text/plain; charset=utf-8`. -/
def parameters? (cs : List Char) : Option (List (List Char × List Char)) :=
  match cs.takeWhile isToken, cs.dropWhile isToken with
  | _ :: _, '/' :: rest =>
    match rest.takeWhile isToken, rest.dropWhile isToken with
    | _ :: _, [] => some []
    | _ :: _, ';' :: after => readParameters? (after.length + 1) after
    | _, _ => none
  | _, _ => none

/-- The character set that a content type names. -/
def charset? (contentType : List Char) : Option String :=
  (parameters? contentType).bind fun found =>
    (found.lookup "charset".toList).map String.ofList

end OutboxRelay.ContentType

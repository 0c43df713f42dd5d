namespace SignalControl.Text

/-! Searching a text for the first occurrence of another. -/

def after? (needle : List Char) : List Char → Option (List Char)
  | [] => needle.isPrefixOf? []
  | character :: rest =>
      match needle.isPrefixOf? (character :: rest) with
      | some remainder => some remainder
      | none => after? needle rest

def occursIn (needle text : List Char) : Bool :=
  (after? needle text).isSome

def splitAtFirst? (separator : Char) :
    List Char → Option (List Char × List Char)
  | [] => none
  | character :: rest =>
      if character = separator then some ([], rest)
      else (splitAtFirst? separator rest).map fun parts =>
        (character :: parts.1, parts.2)

def lowerAscii (text : List Char) : List Char :=
  text.map Char.toLower

end SignalControl.Text

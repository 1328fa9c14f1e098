import MockScaffold.Name.Identifier

namespace MockScaffold.Name

/-- The capitalised gerund of a verb, where only `get` and `commit` double their last letter. -/
def gerund (verb : List Char) : List Char :=
  let name := Text.capitalize verb
  if verb.isEmpty then
    []
  else if verb.length = 1 then
    name ++ "ing".toList
  else if ["is", "can", "has"].any (·.toList.isPrefixOf verb) then
    "CheckingIf".toList ++ name
  else if ["ee", "ye", "oe"].any (·.toList.isSuffixOf verb) then
    name ++ "ing".toList
  else if name.getLast? = some 'e' then
    name.dropLast ++ "ing".toList
  else if ["get", "commit"].any (·.toList == Text.lower verb) then
    name ++ verb.getLast?.toList ++ "ing".toList
  else
    name ++ "ing".toList

/-- `When`, the gerund of all that stands before the first capital, and the rest of the name. -/
def behaviourClass (method : String) : String :=
  let verb := method.toList.takeWhile (!Text.isUpper ·)
  let rest := method.toList.dropWhile (!Text.isUpper ·)
  String.ofList ("When".toList ++ gerund verb ++ rest)

end MockScaffold.Name

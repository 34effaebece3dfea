import TableFeed.SortedMap
import TableFeed.Text.Blank
import TableFeed.Text.Pieces
import TableFeed.Text.Quoted

/-!
# The compact topic map

A map from topics to tables may be written as `topic:table` pairs separated by
commas, with blanks around the parts.  Each pair has exactly one colon and a topic
and a table that are not blank, and no topic comes twice.
-/

namespace TableFeed.TopicMap

/-- Why a text is no topic map. -/
inductive Fault where
  /-- A pair is not a topic and a table. -/
  | malformedPair (pair : String)
  /-- A topic comes twice. -/
  | duplicatedTopic (topic : String)
deriving DecidableEq, Repr

/-- The wording of a fault. -/
def Fault.message : Fault → String
  | .malformedPair pair => "invalid topic2table map: malformed pair " ++ Text.quoted pair
  | .duplicatedTopic topic => "invalid topic2table map: topic " ++ topic ++ " is duplicated"

/-- The topic and the table of a pair. -/
def pair? (pair : List Char) : Option (String × String) :=
  match Text.pieces ':' pair with
  | [topic, table] =>
    let topic := Text.trimChars topic
    let table := Text.trimChars table
    if topic = [] ∨ table = [] then none
    else some (String.ofList topic, String.ofList table)
  | _ => none

/-- Adds pairs to a map, from left to right. -/
def addPairs (map : SortedMap String) : List (List Char) → Except Fault (SortedMap String)
  | [] => .ok map
  | pair :: rest =>
    match pair? pair with
    | none => .error (.malformedPair (String.ofList pair))
    | some (topic, table) =>
      if (map.get? topic).isSome then .error (.duplicatedTopic topic)
      else addPairs (map.insert topic table) rest

/-- The map that a text writes. -/
def parse (text : String) : Except Fault (SortedMap String) :=
  addPairs .empty (Text.pieces ',' text.toList)

end TableFeed.TopicMap

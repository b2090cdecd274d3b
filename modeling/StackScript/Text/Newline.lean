/-!
Line endings. In a file a carriage return, alone or before a newline, counts as a newline. In what is typed in only newlines end lines.
-/

namespace StackScript.Text

/-- Makes a newline of every carriage return, and drops a newline right after one. -/
def unifyNewlines (l : List Char) : List Char :=
  (l.zip (none :: l.map some)).filterMap fun (c, previous) =>
    if c = '\r' then some '\n'
    else if c = '\n' ∧ previous = some '\r' then none
    else some c

def withNewlines (text : String) : String :=
  String.ofList (unifyNewlines text.toList)

/-- The lines of an input, which only newlines end. The last line need not end in one. -/
def inputLines (text : String) : List String :=
  let lines := (text.toList.splitOn '\n').map String.ofList
  if lines.getLast? = some "" then lines.dropLast else lines

end StackScript.Text

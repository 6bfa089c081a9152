namespace SpinLocks.Text

def list (items : List String) : String :=
  "[" ++ ", ".intercalate items ++ "]"

def nats (items : List Nat) : String :=
  list (items.map toString)

def tuple (name value : String) : String :=
  name ++ "(" ++ value ++ ")"

def fieldTexts (fields : List (String × String)) : List String :=
  fields.map fun (field, value) => field ++ ": " ++ value

def record (name : String) (fields : List (String × String)) : String :=
  name ++ " \x7b " ++ ", ".intercalate (fieldTexts fields) ++ " \x7d"

/-- A record that does not show all its fields ends in two dots. -/
def openRecord (name : String) (fields : List (String × String)) : String :=
  name ++ " \x7b " ++ ", ".intercalate (fieldTexts fields ++ [".."]) ++ " \x7d"

def openRecordLines (name : String) (fields : List (String × String)) : String :=
  name ++ " \x7b\n" ++ String.join ((fieldTexts fields).map fun line => "    " ++ line ++ ",\n")
    ++ "    ..\n\x7d"

end SpinLocks.Text

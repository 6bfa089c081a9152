namespace SpinLocks

inductive Field where
  | null
  | int (value : Int)
  | flag (value : Bool)
  | text (value : String)
  | list (items : List Field)
  | record (items : List (String × Field))

abbrev Report := List (String × Field)

namespace Field

def nat (value : Nat) : Field := int value

def nats (values : List Nat) : Field := list (values.map nat)

end Field

end SpinLocks

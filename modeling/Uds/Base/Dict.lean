/-!
# Ordered dictionaries

A dictionary that keeps its keys in insertion order, as a list of pairs with
different keys.
-/

namespace Uds.Base

abbrev Dict (κ ν : Type) := List (κ × ν)

namespace Dict

variable {κ ν : Type} [DecidableEq κ]

def get (d : Dict κ ν) (k : κ) : Option ν := (d.find? fun p => p.1 = k).map Prod.snd

/-- Assign to a key; a new key goes to the end. -/
def set (d : Dict κ ν) (k : κ) (v : ν) : Dict κ ν :=
  match d with
  | [] => [(k, v)]
  | (k', v') :: d => if k' = k then (k', v) :: d else (k', v') :: set d k v

def values (d : Dict κ ν) : List ν := d.map Prod.snd

end Dict

end Uds.Base

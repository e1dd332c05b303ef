import DfaTable.Numeral

/-!
# DfaTable.Record

The lines of a transition table: one for each state, one for each edge and symbol code, and the
line that ends the table.
-/

namespace DfaTable

inductive Record where
  | state (id : Int) (isFinal isStart : Bool)
  | trans (source target code : Int)
  | sentinel
deriving DecidableEq, Repr

namespace Record

def finalWord : Text := "final ".toList

def startWord : Text := "start ".toList

def normalWord : Text := "normal".toList

/-- The words after the number of a state; a state with a flag ends in a space. -/
def flagWords (isFinal isStart : Bool) : Text :=
  (if isFinal then finalWord else []) ++ (if isStart then startWord else []) ++
    (if isFinal || isStart then [] else normalWord)

/-- The line of a record, without its end, unless a number in it is too long to be written. -/
def render? : Record → Option Text
  | state id isFinal isStart => do
    let id ← Numeral.write? id
    return "def ".toList ++ id ++ ' ' :: flagWords isFinal isStart
  | trans source target code => do
    let source ← Numeral.write? source
    let target ← Numeral.write? target
    let code ← Numeral.write? code
    return "trans ".toList ++ source ++ ' ' :: target ++ ' ' :: code
  | sentinel => some "eof".toList

end Record
end DfaTable
